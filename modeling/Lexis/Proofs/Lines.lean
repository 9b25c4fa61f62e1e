import Mathlib
import Lexis.Proofs.Locality

/-!
Lexing a text line by line. For texts `A` and `B` where `A` lexes, the text `A ++ "\n" ++ B`
lexes to the tokens of `A` followed by those of `B`, each moved on by the length of `A` and
the line feed, and an error of `B` is found at the same place of `B`, moved on alike
(`lex_append_line`). Nothing crosses the line feed but the flag that says whether an operand
came last: no token reaches over a line feed and a comment stops before it. The flag changes
at most the first token of `B`, a number with a sign, which after an operand is read as the
sign and the rest (`Token.readAfterOperand`).

The proof runs the stream over `A` and over the longer text side by side up to the end of `A`
(`Lexer.Within`), finds where the second lands after the line feed and the trivia around it,
and from there runs it side by side with the stream over `B` (`Lexer.Aligned`).
-/

namespace Lexis

open Grammar Chars

/-! ### A scan does not read past a blank after the text -/

theorem takeWhile_append_stop {α : Type} {p : α → Bool} {v : List α}
    (hv : ∀ x ∈ v.head?, p x = false) (r : List α) : (r ++ v).takeWhile p = r.takeWhile p := by
  induction r with
  | nil =>
    cases v with
    | nil => rfl
    | cons x v => simp [hv x rfl]
  | cons c r ih =>
    rw [List.cons_append, List.takeWhile_cons, List.takeWhile_cons, ih]

namespace Grammar

theorem IsBlank.isSign {c : Char} (h : IsBlank c) : isSign c = false := by
  rcases h with rfl | rfl | rfl | rfl | rfl | rfl <;> decide

theorem IsBlank.isDot {c : Char} (h : IsBlank c) : isDot c = false := by
  rcases h with rfl | rfl | rfl | rfl | rfl | rfl <;> decide

theorem IsBlank.isExponent {c : Char} (h : IsBlank c) : isExponent c = false := by
  rcases h with rfl | rfl | rfl | rfl | rfl | rfl <;> decide

end Grammar

theorem Separator.takeWhile_append {u : List Char} (hu : Separator u) {p : Char → Bool}
    (hp : ∀ c, IsBlank c → p c = false) (r : List Char) : (r ++ u).takeWhile p = r.takeWhile p :=
  takeWhile_append_stop (fun x hx => hp x (hu x hx)) r

namespace Extent

variable {u : List Char}

theorem digitRun_append_separator (hu : Separator u) (r : List Char) :
    digitRun (r ++ u) = digitRun r := by
  simp only [digitRun, hu.takeWhile_append (fun _ hb => hb.isDigit)]

theorem identifier_append_separator (hu : Separator u) (c : Char) (r : List Char) :
    identifier (c :: r ++ u) = identifier (c :: r) := by
  simp only [List.cons_append, identifier, hu.takeWhile_append (fun _ hb => hb.isIdentContinue)]

theorem sign_append_separator (hu : Separator u) (cs : List Char) :
    sign (cs ++ u) = sign cs := by
  rcases cs with _ | ⟨c, _ | ⟨d, r⟩⟩
  · rcases u with _ | ⟨b, _ | ⟨x, v⟩⟩
    · rfl
    · rfl
    · simp [sign, (hu b rfl).isSign]
  · rcases u with _ | ⟨b, v⟩
    · rfl
    · simp [sign, (hu b rfl).isDigit]
  · rfl

theorem fraction_append_separator (hu : Separator u) (cs : List Char) :
    fraction (cs ++ u) = fraction cs := by
  rcases cs with _ | ⟨c, _ | ⟨d, r⟩⟩
  · rcases u with _ | ⟨b, _ | ⟨x, v⟩⟩
    · rfl
    · rfl
    · simp [fraction, (hu b rfl).isDot]
  · rcases u with _ | ⟨b, v⟩
    · rfl
    · simp [fraction, (hu b rfl).isDigit]
  · simp only [List.cons_append, fraction, digitRun_append_separator hu]

theorem exponent_append_separator (hu : Separator u) (cs : List Char) :
    exponent (cs ++ u) = exponent cs := by
  rcases cs with _ | ⟨e, _ | ⟨c, _ | ⟨x, r⟩⟩⟩
  · rcases u with _ | ⟨b, _ | ⟨y, _ | ⟨z, v⟩⟩⟩
    · rfl
    · rfl
    · simp [exponent, (hu b rfl).isExponent]
    · simp [exponent, (hu b rfl).isExponent]
  · rcases u with _ | ⟨b, _ | ⟨y, v⟩⟩
    · rfl
    · simp [exponent, (hu b rfl).isDigit]
    · simp [exponent, (hu b rfl).isSign, (hu b rfl).isDigit]
  · rcases u with _ | ⟨b, v⟩
    · rfl
    · simp [exponent, (hu b rfl).isDigit, digitRun]
  · have hx : digitRun (x :: (r ++ u)) = digitRun (x :: r) := digitRun_append_separator hu (x :: r)
    simp only [List.cons_append, exponent, digitRun_append_separator hu, hx]

theorem number_append_separator (hu : Separator u) (cs : List Char) :
    number (cs ++ u) = number cs := by
  have hsign := sign_le cs
  have hdigits := digitRun_le (cs.drop (sign cs))
  have hfrac := fraction_le ((cs.drop (sign cs)).drop (digitRun (cs.drop (sign cs))))
  simp only [number, sign_append_separator hu, List.drop_append_of_le_length hsign,
    digitRun_append_separator hu, List.drop_append_of_le_length hdigits,
    fraction_append_separator hu, List.drop_append_of_le_length hfrac,
    exponent_append_separator hu]

theorem operator_append_separator (hu : Separator u) (c : Char) (r : List Char) :
    operator (c :: r ++ u) = operator (c :: r) := by
  rcases r with _ | ⟨x, r⟩
  · rcases u with _ | ⟨b, v⟩
    · rfl
    · simp [operator, (hu b rfl).isEquals]
  · rfl

end Extent

namespace Lexer

theorem classOf_append_separator {u : List Char} (hu : Separator u) (a : Bool) (c : Char)
    (r : List Char) : classOf a (c :: r ++ u) = classOf a (c :: r) := by
  rw [List.cons_append]
  apply classOf_cons_congr
  intro _
  rcases r with _ | ⟨x, r⟩
  · rcases u with _ | ⟨b, v⟩
    · rfl
    · simp [startsWithAll, (hu b rfl).isDigit]
  · rfl

/-- A scan that completes a token reads the same token when blank text is put after the whole
text: whatever the scan looks at lies within the text or is the blank. -/
theorem scan_append_separator {a : Bool} {R u : List Char} {n : Nat} {k : TokenKind}
    (h : scan a R = some ⟨n, .ok k⟩) (hu : Separator u) : scan a (R ++ u) = some ⟨n, .ok k⟩ := by
  obtain ⟨hcls, hlong, -⟩ := scan_spec h
  have hlen : (R.take n).length = n := List.length_take_of_le hlong.le_length
  have hsplit : R ++ u = R.take n ++ (R.drop n ++ u) := by rw [← List.append_assoc, List.take_append_drop]
  obtain ⟨c, r, rfl⟩ : ∃ c r, R = c :: r := by
    cases R with
    | nil => have := scan_pos h; simp at hlen; omega
    | cons c r => exact ⟨c, r, rfl⟩
  unfold scan at h ⊢
  rw [classOf_append_separator hu]
  cases hc : classOf a (c :: r) with
  | identifier =>
    rw [hc] at h
    rw [Extent.identifier_append_separator hu]
    exact h
  | number =>
    rw [hc] at h
    rw [Extent.number_append_separator hu]
    exact h
  | character =>
    -- a closed literal is read whole whatever follows it
    have hk : k = .character := by rw [hc] at hcls; cases k <;> simp_all [tokenClass]
    subst hk
    rw [hc] at h
    rw [hsplit, Extent.character_append hlong.mem, hlen]
  | string =>
    have hk : k = .string := by rw [hc] at hcls; cases k <;> simp_all [tokenClass]
    subst hk
    rw [hsplit, Extent.string_append hlong.mem, hlen]
  | operator =>
    rw [hc] at h
    rw [Extent.operator_append_separator hu]
    exact h

theorem blank_le (R : List Char) : Extent.blank R ≤ R.length :=
  (List.takeWhile_prefix isBlank).length_le

theorem blank_append (R v : List Char) :
    Extent.blank (R ++ v) =
      if Extent.blank R = R.length then R.length + Extent.blank v else Extent.blank R := by
  unfold Extent.blank
  rw [List.takeWhile_append]
  split <;> simp_all

theorem blank_eq_zero {R : List Char} (h : startsWithAll [isBlank] R = false) :
    Extent.blank R = 0 := by
  cases R with
  | nil => rfl
  | cons c r =>
    simp only [startsWithAll, Bool.and_true] at h
    simp [Extent.blank, h]

theorem blank_lineFeed {W : List Char} (hW : ∀ x ∈ W, isBlank x = true) (v : List Char) :
    Extent.blank (W ++ '\n' :: v) = W.length + 1 + Extent.blank v := by
  have hself : Extent.blank W = W.length := by
    rw [Extent.blank, List.takeWhile_eq_self_iff.mpr hW]
  have hfeed : Extent.blank ('\n' :: v) = 1 + Extent.blank v := by
    simp [Extent.blank, isBlank, Nat.add_comm]
  rw [blank_append, if_pos hself, hfeed, Nat.add_assoc]

/-- Text whose blank run reaches its end holds only blanks. -/
theorem all_blank_of_drop {R : List Char} (h : R.drop (Extent.blank R) = []) :
    ∀ x ∈ R, isBlank x = true := by
  have hlen : R.length ≤ Extent.blank R := List.drop_eq_nil_iff.mp h
  have hself : R.takeWhile isBlank = R :=
    (List.takeWhile_prefix isBlank).eq_of_length (Nat.le_antisymm (blank_le R) hlen)
  exact List.takeWhile_eq_self_iff.mp hself

theorem comment_append_lineFeed (R v : List Char) :
    Extent.comment (R ++ '\n' :: v) = Extent.comment R := by
  have hstop : ∀ x ∈ ('\n' :: v).head?, (!isLineBreak x) = false := by simp [isLineBreak]
  rcases R with _ | ⟨a, _ | ⟨b, r⟩⟩
  · cases v <;> simp [Extent.comment, isSlash]
  · simp [Extent.comment, isSlash]
  · simp only [List.cons_append, Extent.comment, takeWhile_append_stop hstop]

theorem startsWithAll_single_append (t : Char → Bool) {R : List Char} (hR : R ≠ [])
    (v : List Char) : startsWithAll [t] (R ++ v) = startsWithAll [t] R := by
  obtain ⟨c, r, rfl⟩ := List.exists_cons_of_ne_nil hR
  simp [startsWithAll]

theorem startsWithAll_slashes_append_lineFeed (R v : List Char) :
    startsWithAll [isSlash, isSlash] (R ++ '\n' :: v) = startsWithAll [isSlash, isSlash] R := by
  rcases R with _ | ⟨a, _ | ⟨b, r⟩⟩
  · simp [startsWithAll, isSlash]
  · simp [startsWithAll, isSlash]
  · simp [startsWithAll]

theorem separator_lineFeed (u : List Char) : Separator ('\n' :: u) := by
  simp [Separator, IsBlank]

/-- A lexer first skips the blanks ahead, if any. -/
theorem nextToken_skipBlanks {s : String} {lx : Lexer} (hb : Between s lx) :
    ∃ lx₀, lx.nextToken = lx₀.nextToken ∧ Between s lx₀ ∧
      lx₀.cursor.rest = lx.cursor.rest.drop (Extent.blank lx.cursor.rest) ∧
      lx₀.afterOperand = lx.afterOperand ∧ lx₀.stopped = lx.stopped := by
  cases hblank : startsWithAll [isBlank] lx.cursor.rest with
  | false => exact ⟨lx, rfl, hb, by rw [blank_eq_zero hblank, List.drop_zero], rfl, rfl⟩
  | true =>
    rw [hb.represents.rest_eq] at hblank
    obtain ⟨lx₀, hn, hb₀, hidx, ha, hs⟩ := nextToken_of_blanks hb hblank
    refine ⟨lx₀, hn, hb₀, ?_, ha, hs⟩
    rw [rest_of_index hb hb₀ hidx, hb.represents.rest_eq]

/-- A lexer between tokens of `A` and one of `S`, the text `A`, a line feed and `B`: the second
has the first one's characters ahead and then the line feed and `B`, and the same flags. -/
structure Within (A S B : String) (lx lx' : Lexer) : Prop where
  between : Between A lx
  between' : Between S lx'
  text_eq : S.toList = A.toList ++ '\n' :: B.toList
  rest_eq : lx'.cursor.rest = lx.cursor.rest ++ '\n' :: B.toList
  afterOperand_eq : lx'.afterOperand = lx.afterOperand
  stopped_eq : lx'.stopped = lx.stopped

section Within

variable {A S B : String} {lx lx' : Lexer}

theorem Within.length_eq (h : Within A S B lx lx') : S.length = A.length + 1 + B.length := by
  rw [← String.length_toList, h.text_eq, ← String.length_toList, ← String.length_toList]
  simp only [List.length_append, List.length_cons]
  omega

theorem Within.index_eq (h : Within A S B lx lx') : lx'.cursor.index = lx.cursor.index := by
  have hlen := congrArg List.length h.rest_eq
  rw [h.between.represents.rest_eq, h.between'.represents.rest_eq] at hlen
  simp only [List.length_drop, List.length_append, List.length_cons, String.length_toList] at hlen
  have := h.between.represents.index_le
  have := h.between'.represents.index_le
  have := h.length_eq
  omega

theorem Within.of_rest {lx₁ lx₁' : Lexer} (h : Within A S B lx lx') (hb : Between A lx₁)
    (hb' : Between S lx₁') {n : Nat} (hn : n ≤ lx.cursor.rest.length)
    (hr : lx₁.cursor.rest = lx.cursor.rest.drop n) (hr' : lx₁'.cursor.rest = lx'.cursor.rest.drop n)
    (ha : lx₁'.afterOperand = lx₁.afterOperand) (hs : lx₁'.stopped = lx₁.stopped) :
    Within A S B lx₁ lx₁' :=
  ⟨hb, hb', h.text_eq, by rw [hr', h.rest_eq, List.drop_append_of_le_length hn, hr], ha, hs⟩

theorem Within.has (h : Within A S B lx lx') : lx'.cursor.has 0 = true := by
  simp [Cursor.has, h.rest_eq]

theorem Within.peek_eq (h : Within A S B lx lx') (hr : lx.cursor.rest ≠ []) (t : Char → Bool) :
    lx'.cursor.peek [t] = lx.cursor.peek [t] := by
  rw [Cursor.peek, h.rest_eq, startsWithAll_single_append _ hr, Cursor.peek]

theorem Within.peek_slashes (h : Within A S B lx lx') :
    lx'.cursor.peek [isSlash, isSlash] = lx.cursor.peek [isSlash, isSlash] := by
  rw [Cursor.peek, h.rest_eq, startsWithAll_slashes_append_lineFeed, Cursor.peek]

theorem Within.skipBlank (h : Within A S B lx lx') (hblank : lx.cursor.peek [isBlank] = true)
    {lx₁ : Lexer} (h₁ : lx.skipBlank = .ok lx₁) (hne : lx₁.cursor.rest ≠ []) :
    ∃ lx₁', lx'.skipBlank = .ok lx₁' ∧ Within A S B lx₁ lx₁' ∧
      lx₁.afterOperand = lx.afterOperand ∧ lx₁.stopped = lx.stopped := by
  have hR : lx.cursor.rest ≠ [] := rest_ne_nil_of_peek hblank
  obtain ⟨lx₂, h₂, hb₂, hskip₂⟩ := skipBlank_skips h.between hblank
  rw [h₁] at h₂
  cases h₂
  obtain ⟨lx₁', h₁', hb₁', hskip₁'⟩ := skipBlank_skips h.between' (by rwa [h.peek_eq hR])
  -- the blank run ends within the text of `A`, before the line feed
  have hrest₁ := skipBlank_rest h₁
  have hlt : Extent.blank lx.cursor.rest ≠ lx.cursor.rest.length := by
    intro heq
    rw [hrest₁, heq, List.drop_length] at hne
    exact hne rfl
  have hblank' : Extent.blank lx'.cursor.rest = Extent.blank lx.cursor.rest := by
    rw [h.rest_eq, blank_append, if_neg hlt]
  refine ⟨lx₁', h₁', h.of_rest hb₂ hb₁' (blank_le _) hrest₁
    (by rw [skipBlank_rest h₁', hblank']) ?_ ?_, hskip₂.afterOperand_eq, hskip₂.stopped_eq⟩
  · rw [hskip₁'.afterOperand_eq, hskip₂.afterOperand_eq, h.afterOperand_eq]
  · rw [hskip₁'.stopped_eq, hskip₂.stopped_eq, h.stopped_eq]

theorem Within.skipComment (h : Within A S B lx lx')
    (hslash : lx.cursor.peek [isSlash, isSlash] = true) {lx₁ : Lexer}
    (h₁ : lx.skipComment = .ok lx₁) :
    ∃ lx₁', lx'.skipComment = .ok lx₁' ∧ Within A S B lx₁ lx₁' ∧
      lx₁.afterOperand = lx.afterOperand ∧ lx₁.stopped = lx.stopped := by
  obtain ⟨lx₂, h₂, hb₂, hskip₂⟩ := skipComment_skips h.between hslash
  rw [h₁] at h₂
  cases h₂
  obtain ⟨lx₁', h₁', hb₁', hskip₁'⟩ := skipComment_skips h.between' (by rwa [h.peek_slashes])
  -- a comment ends at the line feed, so it is the same on both texts
  obtain ⟨n, hn, -⟩ := Extent.comment_isSome hslash
  have hn' : Extent.comment lx'.cursor.rest = some n := by
    rw [h.rest_eq, comment_append_lineFeed]
    exact hn
  refine ⟨lx₁', h₁', h.of_rest hb₂ hb₁' (Extent.comment_le hn) (skipComment_rest hn h₁)
    (skipComment_rest hn' h₁') ?_ ?_, hskip₂.afterOperand_eq, hskip₂.stopped_eq⟩
  · rw [hskip₁'.afterOperand_eq, hskip₂.afterOperand_eq, h.afterOperand_eq]
  · rw [hskip₁'.stopped_eq, hskip₂.stopped_eq, h.stopped_eq]

theorem Within.lexToken (h : Within A S B lx lx') (hr : lx.cursor.rest ≠ []) {lx₁ : Lexer}
    {t : Token} (h₁ : lx.lexToken = .ok (lx₁, .ok t)) :
    ∃ lx₁', lx'.lexToken = .ok (lx₁', .ok t) ∧ Within A S B lx₁ lx₁' := by
  obtain ⟨⟨n, o⟩, he, hfin⟩ := lexToken_eq_finish hr
  cases o with
  | error k =>
    rw [hfin, finish_of_error lx rfl] at h₁
    cases h₁
  | ok k =>
    -- the token ends before the line feed, so it reads the same characters of both texts
    have hle : n ≤ lx.cursor.rest.length := scan_length_le he
    have hle' : n ≤ lx'.cursor.rest.length := by
      rw [h.rest_eq, List.length_append]
      omega
    have he' : scan lx'.afterOperand lx'.cursor.rest = some ⟨n, .ok k⟩ := by
      rw [h.rest_eq, h.afterOperand_eq]
      exact scan_append_separator he (separator_lineFeed _)
    obtain ⟨lx₂, hf, hb₂, hidx₂, ha₂, hs₂⟩ := @finish_of_ok _ _ _ k h.between (scan_pos he) hle
    obtain ⟨lx₁', hf', hb₁', hidx₁', ha₁', hs₁'⟩ :=
      @finish_of_ok _ _ _ k h.between' (scan_pos he) hle'
    have htake : (S.toList.drop lx.cursor.index).take n = (A.toList.drop lx.cursor.index).take n := by
      rw [← h.index_eq, ← h.between'.represents.rest_eq, h.index_eq,
        ← h.between.represents.rest_eq, h.rest_eq, List.take_append_of_le_length hle]
    have htok : tokenAt k S.toList lx'.cursor.index n = tokenAt k A.toList lx.cursor.index n := by
      simp only [tokenAt, h.index_eq, htake]
    rw [hfin, hf, Except.ok.injEq, Prod.mk.injEq] at h₁
    obtain ⟨rfl, ht⟩ := h₁
    cases ht
    refine ⟨lx₁', ?_, h.of_rest hb₂ hb₁' hle (rest_of_index h.between hb₂ hidx₂)
      (rest_of_index h.between' hb₁' hidx₁') (by rw [ha₁', ha₂, htok]) (by rw [hs₁', hs₂, h.stopped_eq])⟩
    obtain ⟨e', he'', hfin'⟩ := lexToken_eq_finish (by rw [h.rest_eq]; simp : lx'.cursor.rest ≠ [])
    rw [he', Option.some.injEq] at he''
    rw [hfin', ← he'', hf', htok]

theorem Within.at_token (h : Within A S B lx lx') (hc : lx.cursor.has 0 = true)
    (hblank : ¬lx.cursor.peek [isBlank] = true) (hslash : ¬lx.cursor.peek [isSlash, isSlash] = true) :
    TokenStart lx.cursor.rest ∧ lx.nextToken = lx.lexToken.map (fun r => (r.1, some r.2)) ∧
      lx'.nextToken = lx'.lexToken.map (fun r => (r.1, some r.2)) := by
  have hr : lx.cursor.rest ≠ [] := List.ne_nil_of_length_pos ((Cursor.has_iff _ _).mp hc)
  refine ⟨?_, nextToken_of_token hc hblank hslash,
    nextToken_of_token h.has (by rwa [h.peek_eq hr]) (by rwa [h.peek_slashes])⟩
  rw [h.between.represents.rest_eq]
  exact tokenStart_of_peek h.between hc hblank hslash

/-- The lexers on `A` and on `S` skip the same trivia: either both come to a token of `A`, in step
again, or the one on `A` comes to the end of `A` while the one on `S` stands before some blanks
of `A`, the line feed and `B`. -/
theorem Within.skips (h : Within A S B lx lx') (hs : lx.stopped = false) :
    ∃ lx₀ lx₀', lx.nextToken = lx₀.nextToken ∧ lx'.nextToken = lx₀'.nextToken ∧
      lx₀'.afterOperand = lx.afterOperand ∧
      ((lx₀.cursor.rest = [] ∧ Between S lx₀' ∧ lx₀'.stopped = false ∧
          ∃ W, (∀ x ∈ W, isBlank x = true) ∧ lx₀'.cursor.rest = W ++ '\n' :: B.toList) ∨
        (Within A S B lx₀ lx₀' ∧ TokenStart lx₀.cursor.rest ∧
          lx₀.nextToken = lx₀.lexToken.map (fun r => (r.1, some r.2)) ∧
          lx₀'.nextToken = lx₀'.lexToken.map (fun r => (r.1, some r.2)))) := by
  -- on the loop of the first lexer's stream; a skip of one is a skip of the other until the
  -- first reaches the end of `A`
  induction lx using nextToken.induct generalizing lx' with
  | case1 lx hc hblank f hf =>
    obtain ⟨lx₁, h₁⟩ := skipBlank_ok h.between.represents hblank
    rw [h₁] at hf
    cases hf
  | case2 lx hc hblank lx₁ h₁ ih =>
    have hr : lx.cursor.rest ≠ [] := rest_ne_nil_of_peek hblank
    by_cases hend : lx₁.cursor.rest = []
    · -- the blanks run to the end of `A`; the second lexer has not moved yet
      have hW : ∀ x ∈ lx.cursor.rest, isBlank x = true :=
        all_blank_of_drop (by rwa [skipBlank_rest h₁] at hend)
      exact ⟨lx₁, lx', nextToken_of_blank hc hblank h₁, rfl, h.afterOperand_eq,
        .inl ⟨hend, h.between', h.stopped_eq.trans hs, lx.cursor.rest, hW, h.rest_eq⟩⟩
    · obtain ⟨lx₁', h₁', hw, ha₁, hs₁⟩ := h.skipBlank hblank h₁ hend
      obtain ⟨lx₀, lx₀', hn₀, hn₀', ha₀', hend₀⟩ := ih hw (hs₁.trans hs)
      refine ⟨lx₀, lx₀', (nextToken_of_blank hc hblank h₁).trans hn₀, ?_, ha₀'.trans ha₁, hend₀⟩
      rw [nextToken_of_blank h.has (by rwa [h.peek_eq hr]) h₁', hn₀']
  | case3 lx hc hblank hslash f hf =>
    obtain ⟨lx₁, h₁⟩ := skipComment_ok h.between.represents hslash
    rw [h₁] at hf
    cases hf
  | case4 lx hc hblank hslash lx₁ h₁ ih =>
    have hr : lx.cursor.rest ≠ [] := rest_ne_nil_of_peek hslash
    obtain ⟨lx₁', h₁', hw, ha₁, hs₁⟩ := h.skipComment hslash h₁
    obtain ⟨lx₀, lx₀', hn₀, hn₀', ha₀', hend₀⟩ := ih hw (hs₁.trans hs)
    refine ⟨lx₀, lx₀', (nextToken_of_comment hc hblank hslash h₁).trans hn₀, ?_, ha₀'.trans ha₁,
      hend₀⟩
    rw [nextToken_of_comment h.has (by rwa [h.peek_eq hr]) (by rwa [h.peek_slashes]) h₁', hn₀']
  | case5 lx hc hblank hslash f hf =>
    exact ⟨lx, lx', rfl, rfl, h.afterOperand_eq, .inr ⟨h, h.at_token hc hblank hslash⟩⟩
  | case6 lx hc hblank hslash lx₁ r hr =>
    exact ⟨lx, lx', rfl, rfl, h.afterOperand_eq, .inr ⟨h, h.at_token hc hblank hslash⟩⟩
  | case7 lx hc =>
    have hend : lx.cursor.rest = [] := by simpa [Cursor.has] using hc
    exact ⟨lx, lx', rfl, rfl, h.afterOperand_eq, .inl ⟨hend, h.between', h.stopped_eq.trans hs, [],
      by simp, by rw [h.rest_eq, hend, List.nil_append]⟩⟩

/-- Where the lexer on `A` reads a token, the one on `S` reads the same token and the two stay
in step: the line feed and `B` after `A` change none of `A`'s tokens. -/
theorem Within.nextToken (h : Within A S B lx lx') (hs : lx.stopped = false) {lx₂ : Lexer}
    {t : Token} (hn : lx.nextToken = .ok (lx₂, some (.ok t))) :
    ∃ lx₂', lx'.nextToken = .ok (lx₂', some (.ok t)) ∧ Within A S B lx₂ lx₂' := by
  obtain ⟨lx₀, lx₀', hn₀, hn₀', -, hend⟩ := h.skips hs
  rw [hn₀] at hn
  rcases hend with ⟨hend, -⟩ | ⟨hw, hstart, htok, htok'⟩
  · rw [nextToken_of_end (by simp [Cursor.has, hend])] at hn
    cases hn
  · cases hl : lx₀.lexToken with
    | error f =>
      rw [htok, hl] at hn
      cases hn
    | ok p =>
      obtain ⟨lx₁, r⟩ := p
      rw [htok, hl] at hn
      simp only [Except.map, Except.ok.injEq, Prod.mk.injEq, Option.some.injEq] at hn
      obtain ⟨rfl, rfl⟩ := hn
      obtain ⟨lx₁', hl', hw₁⟩ := hw.lexToken hstart.ne_nil hl
      exact ⟨lx₁', by rw [hn₀', htok', hl']; rfl, hw₁⟩

/-- Where only blanks of `A` are left, the lexer on `S` skips them, the line feed and the
blanks `B` starts with in one run, and stands where the lexer on `B` stands after its own leading
blanks, `A.length + 1` characters further on. -/
theorem land {lx' : Lexer} (hb' : Between S lx') (htext : S.toList = A.toList ++ '\n' :: B.toList)
    {W : List Char} (hW : ∀ x ∈ W, isBlank x = true) (hr : lx'.cursor.rest = W ++ '\n' :: B.toList)
    (hs : lx'.stopped = false) :
    ∃ lxS lxB, lx'.nextToken = lxS.nextToken ∧ (Lexer.start B).nextToken = lxB.nextToken ∧
      Aligned B S (A.length + 1) lxB lxS ∧ lxS.afterOperand = lx'.afterOperand ∧
      lxB.afterOperand = false ∧ lxB.stopped = false := by
  obtain ⟨lxS, hnS, hbS, hrS, haS, hsS⟩ := nextToken_skipBlanks hb'
  obtain ⟨lxB, hnB, hbB, hrB, haB, hsB⟩ := nextToken_skipBlanks (between_start B)
  have hlen : S.length = B.length + (A.length + 1) := by
    rw [← String.length_toList, htext, ← String.length_toList, ← String.length_toList]
    simp only [List.length_append, List.length_cons]
    omega
  have hstart : (Lexer.start B).cursor.rest = B.toList := rfl
  have hrest : lxS.cursor.rest = lxB.cursor.rest := by
    rw [hrS, hrB, hr, blank_lineFeed hW, hstart, ← List.drop_drop]
    simp
  exact ⟨lxS, lxB, hnS, hnB, ⟨hbB, hbS, hlen, hrest, by rw [hsS, hs, hsB]; rfl⟩, haS, haB, hsB⟩

/-- The lexer on `A` at the end of its stream: the one on `S` lands where the lexer on `B`
lands after its leading blanks, with the flag it had. -/
theorem Within.landing (h : Within A S B lx lx') (hs : lx.stopped = false) {lx₂ : Lexer}
    (hn : lx.nextToken = .ok (lx₂, none)) :
    ∃ lxS lxB, lx'.nextToken = lxS.nextToken ∧ (Lexer.start B).nextToken = lxB.nextToken ∧
      Aligned B S (A.length + 1) lxB lxS ∧ lxS.afterOperand = lx.afterOperand ∧
      lxB.afterOperand = false ∧ lxB.stopped = false := by
  obtain ⟨lx₀, lx₀', hn₀, hn₀', ha₀', hend⟩ := h.skips hs
  rcases hend with ⟨-, hb₀', hs₀', W, hW, hr₀'⟩ | ⟨-, -, htok, -⟩
  · obtain ⟨lxS, lxB, hnS, hnB, hal, haS, haB, hsB⟩ := land hb₀' h.text_eq hW hr₀' hs₀'
    exact ⟨lxS, lxB, hn₀'.trans hnS, hnB, hal, haS.trans ha₀', haB, hsB⟩
  · -- where a token starts the stream gives an item, not its end
    rw [hn₀, htok] at hn
    cases hl : lx₀.lexToken <;> rw [hl] at hn <;> cases hn

/-- The pass of the lexer on `A` that ends without an error: the lexer on `S` reads the same
tokens and lands where the lexer on `B` lands after its leading blanks, its flag set by the last
of those tokens. -/
theorem Within.collect (h : Within A S B lx lx') (hs : lx.stopped = false) {acc L : List Token}
    (hc : lx.collect acc = .ok (.ok L)) :
    ∃ ts lxS lxB, L = acc.reverse ++ ts ∧ lx'.collect acc = lxS.collect L.reverse ∧
      (Lexer.start B).collect [] = lxB.collect [] ∧ Aligned B S (A.length + 1) lxB lxS ∧
      lxS.afterOperand = (ts.getLast?.map Token.endsOperand).getD lx.afterOperand ∧
      lxB.afterOperand = false ∧ lxB.stopped = false := by
  -- on the loop of the first lexer's pass; the second reads the same tokens
  induction lx, acc using collect.induct generalizing lx' with
  | case1 lx acc f hf =>
    obtain ⟨r, hr, -⟩ := next_ok h.between.represents
    rw [hr] at hf
    cases hf
  | case2 lx acc lx₁ hn =>
    rw [collect_of_end hn, Except.ok.injEq, Except.ok.injEq] at hc
    subst hc
    obtain ⟨lxS, lxB, hnS, hnB, hal, haS, haB, hsB⟩ :=
      h.landing hs (nextToken_of_next hs hn (by simp))
    have hsS : lxS.stopped = false := hal.stopped_eq.trans hsB
    refine ⟨[], lxS, lxB, by simp, ?_, collect_congr (next_congr rfl hsB hnB) [], hal, haS, haB, hsB⟩
    rw [List.reverse_reverse]
    exact collect_congr (next_congr (h.stopped_eq.trans hs) hsS hnS) acc
  | case3 lx acc lx₁ e hn =>
    rw [collect_of_error hn] at hc
    cases hc
  | case4 lx acc lx₁ t hn ih =>
    have hn₀ : lx.nextToken = .ok (lx₁, some (.ok t)) := nextToken_of_next hs hn (by simp)
    obtain ⟨lx₁', hn', hw⟩ := h.nextToken hs hn₀
    obtain ⟨-, -, -, -, -, -, -, -, -, -, ha₁, hs₁⟩ := nextToken_token h.between hn₀
    rw [collect_of_token hn] at hc
    obtain ⟨ts, lxS, lxB, hL, hcS, hcB, hal, haS, haB, hsB⟩ := ih hw (hs₁.trans hs) hc
    refine ⟨t :: ts, lxS, lxB, by simp [hL], ?_, hcB, hal, ?_, haB, hsB⟩
    · rw [collect_of_token (next_of_nextToken (h.stopped_eq.trans hs) hn' (by simp)), hcS]
    · rw [haS, ha₁, List.getLast?_cons]
      cases ts.getLast? <;> rfl

end Within

end Lexer

/-- Lexing a text line by line: the tokens of `A`, a line feed and `B` are those of `A` and then
those of `B` moved on by the line `A` and its line feed, save that after an operand a signed
number opening `B` is read as its sign and the number without it; an error of `B` stands as far
on. -/
theorem lex_append_line {A B : String} {ta : List Token} (hA : lex A = .ok (.ok ta)) :
    (∀ tb, lex B = .ok (.ok tb) →
      lex (A ++ "\n" ++ B) = .ok (.ok (ta ++ ((if ta.getLast?.any Token.endsOperand then
        Token.readAfterOperand tb else tb).map (Token.shift (A.length + 1)))))) ∧
    ∀ e, lex B = .ok (.error e) →
      lex (A ++ "\n" ++ B) = .ok (.error ⟨e.kind, e.offset + (A.length + 1)⟩) := by
  have htext : (A ++ "\n" ++ B).toList = A.toList ++ '\n' :: B.toList := by simp
  have hw : Lexer.Within A (A ++ "\n" ++ B) B (Lexer.start A) (Lexer.start (A ++ "\n" ++ B)) :=
    ⟨Lexer.between_start A, Lexer.between_start _, htext, htext, rfl, rfl⟩
  obtain ⟨ts, lxS, lxB, hL, hcS, hcB, hal, haS, haB, hsB⟩ := hw.collect rfl hA
  simp only [List.reverse_nil, List.nil_append] at hL
  subst hL
  have hflag : lxS.afterOperand = ta.getLast?.any Token.endsOperand := by
    rw [haS]
    cases ta.getLast? <;> rfl
  -- after the landing, the pass over `B` decides the rest, with or without the flag
  obtain ⟨tb, r, hB, hS⟩ : ∃ tb r, lex B = .ok (passResult tb r) ∧
      lex (A ++ "\n" ++ B) = .ok (passResult (ta ++ ((if ta.getLast?.any Token.endsOperand then
        Token.readAfterOperand tb else tb).map (Token.shift (A.length + 1))))
        (r.map (LexError.shift (A.length + 1)))) := by
    unfold lex
    rw [hcS, hcB]
    cases hany : ta.getLast?.any Token.endsOperand with
    | false =>
      obtain ⟨tb, r, hB, hS⟩ := hal.collect (by rw [hflag, hany, haB]) [] ta.reverse
      exact ⟨tb, r, hB, by simpa using hS⟩
    | true =>
      obtain ⟨tb, r, hB, hS⟩ :=
        hal.collect_afterOperand haB (hflag.trans hany) hsB [] ta.reverse
      exact ⟨tb, r, hB, by simpa using hS⟩
  refine ⟨fun tb' hB' => ?_, fun e hB' => ?_⟩
  · rw [hB, Except.ok.injEq, passResult_eq_ok] at hB'
    obtain ⟨rfl, rfl⟩ := hB'
    exact hS
  · rw [hB, Except.ok.injEq, passResult_eq_error] at hB'
    subst hB'
    exact hS

/-- After the operand `x`, the signed number on the next line is read as a sign and a number. -/
theorem lex_append_line_sign :
    lex "x" = .ok (.ok [⟨.identifier, "x", ⟨0, 1, by decide⟩⟩]) ∧
      lex "-1" = .ok (.ok [⟨.integer, "-1", ⟨0, 2, by decide⟩⟩]) ∧
      lex ("x" ++ "\n" ++ "-1") = .ok (.ok [⟨.identifier, "x", ⟨0, 1, by decide⟩⟩,
        ⟨.operator, "-", ⟨2, 3, by decide⟩⟩, ⟨.integer, "1", ⟨3, 4, by decide⟩⟩]) :=
  have hA : lex "x" = .ok (.ok [⟨.identifier, "x", ⟨0, 1, by decide⟩⟩]) := by decide +kernel
  have hB : lex "-1" = .ok (.ok [⟨.integer, "-1", ⟨0, 2, by decide⟩⟩]) := by decide +kernel
  ⟨hA, hB, ((lex_append_line hA).1 _ hB).trans (by decide +kernel)⟩

end Lexis
