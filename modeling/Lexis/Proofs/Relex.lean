import Lexis.Proofs.Classification

/-!
Reading tokens again out of their context. A scan that completes a token reads the same token
when the text after it is cut off, or replaced by text that starts with a blank
(`Lexer.scan_take_append`): no token goes on over a blank, and the class of a token is decided by
its own characters, except for a sign, which starts a number only when a digit follows it.

Hence every token that `lex` gives lexes on its own to itself (`lex_token_alone`), and the tokens
of a text, printed with one blank between two of them, lex to the same tokens at their new places
(`lex_spaced_literals`): the blanks change neither where a token ends nor whether an operand comes
before a sign.
-/

namespace Lexis

open Grammar Chars Lexer

/-- Text that no token goes on into: nothing, or a blank first. -/
def Separator (u : List Char) : Prop := ∀ c ∈ u.head?, IsBlank c

theorem separator_nil : Separator [] := by simp [Separator]

theorem separator_space (u : List Char) : Separator (' ' :: u) := by
  simp [Separator, IsBlank]

theorem Separator.takeWhile_eq_nil {u : List Char} (hu : Separator u) {p : Char → Bool}
    (hp : ∀ c, IsBlank c → p c = false) : u.takeWhile p = [] := by
  cases u with
  | nil => rfl
  | cons c u => simp [hp c (hu c rfl)]

namespace Grammar

theorem IsBlank.isIdentContinue {c : Char} (h : IsBlank c) : isIdentContinue c = false := by
  rcases h with rfl | rfl | rfl | rfl | rfl | rfl <;> decide

theorem IsBlank.isDigit {c : Char} (h : IsBlank c) : isDigit c = false := by
  rcases h with rfl | rfl | rfl | rfl | rfl | rfl <;> decide

theorem IsBlank.isEquals {c : Char} (h : IsBlank c) : isEquals c = false := by
  rcases h with rfl | rfl | rfl | rfl | rfl | rfl <;> decide

theorem IsNumber.mem {v : List Char} (hv : IsNumber v) {x : Char} (hx : x ∈ v) :
    IsDigit x ∨ IsSign x ∨ x = '.' ∨ x = 'e' ∨ x = 'E' := by
  obtain ⟨sg, ds, fr, ex, rfl, hsg, hds, hfr, hex⟩ := hv
  simp only [List.mem_append] at hx
  rcases hx with ((hx | hx) | hx) | hx
  · rcases hsg with rfl | ⟨c, rfl, hc⟩
    · cases hx
    · rw [List.mem_singleton.mp hx]
      exact .inr (.inl hc)
  · exact .inl (hds.2 x hx)
  · rcases hfr with rfl | ⟨ds', rfl, hds'⟩
    · cases hx
    · rcases List.mem_cons.mp hx with rfl | hx
      · exact .inr (.inr (.inl rfl))
      · exact .inl (hds'.2 x hx)
  · rcases hex with rfl | ⟨e, sg', ds', rfl, he, hsg', hds'⟩
    · cases hx
    · rcases List.mem_cons.mp hx with rfl | hx
      · exact .inr (.inr (.inr he))
      rcases List.mem_append.mp hx with hx | hx
      · rcases hsg' with rfl | ⟨c, rfl, hc⟩
        · cases hx
        · rw [List.mem_singleton.mp hx]
          exact .inr (.inl hc)
      · exact .inl (hds'.2 x hx)

theorem IsNumber.not_blank {v : List Char} (hv : IsNumber v) {x : Char} (hx : x ∈ v) :
    ¬IsBlank x := by
  have hchar := hv.mem hx
  rintro (rfl | rfl | rfl | rfl | rfl | rfl) <;> revert hchar <;> unfold IsDigit IsSign <;> decide

end Grammar

/-! ### Each scan reads a whole word of its language when a blank or the end follows -/

namespace Extent

theorem identifier_append {w u : List Char} (hw : IsIdentifier w) (hu : Separator u) :
    identifier (w ++ u) = some w.length := by
  match w, hw with
  | c :: r, ⟨hc, hr⟩ =>
    have hcont : ∀ x ∈ r, isIdentContinue x = true := fun x hx => (isIdentContinue_iff x).mpr (hr x hx)
    have hrun : (r ++ u).takeWhile isIdentContinue = r := by
      rw [List.takeWhile_append_of_pos hcont,
        hu.takeWhile_eq_nil fun _ hb => hb.isIdentContinue, List.append_nil]
    simp only [List.cons_append, identifier, (isIdentStart_iff c).mpr hc, if_true, hrun,
      List.length_cons, Option.some.injEq]
    omega

theorem number_start {w : List Char} (u : List Char) (hw : IsNumber w) :
    startsWithAll [isDigit] (w ++ u) = true ∨ startsWithAll [isSign, isDigit] (w ++ u) = true := by
  obtain ⟨sg, ds, fr, ex, rfl, hsg, hds, -, -⟩ := hw
  obtain ⟨d, ds', rfl⟩ := List.exists_cons_of_ne_nil hds.1
  have hd : isDigit d = true := (isDigit_iff d).mpr (hds.2 d (by simp))
  rcases hsg with rfl | ⟨c, rfl, hc⟩
  · exact .inl (by simp [startsWithAll, hd])
  · exact .inr (by simp [startsWithAll, hd, (isSign_iff c).mpr hc])

/-- A number followed by a blank or the end is read whole, as a decimal exactly when it has a
point or an exponent mark: the longest number ahead cannot reach over the blank. -/
theorem number_append {w u : List Char} (hw : IsNumber w) (hu : Separator u) :
    ∃ k, number (w ++ u) = some (w.length, k) ∧ (k = .integer ∨ k = .decimal) ∧
      (k = .decimal ↔ ∃ x ∈ w, x = '.' ∨ x = 'e' ∨ x = 'E') := by
  obtain ⟨m, k, hm⟩ := number_isSome (number_start u hw)
  have hlong := number_longest hm
  have hge : w.length ≤ m :=
    hlong.maximal w.length (by simp) (by rw [List.take_left]; exact hw)
  have hle : m ≤ w.length := by
    apply Nat.le_of_not_lt
    intro hlt
    -- a longer number would hold the blank that follows `w`
    have hlen := hlong.le_length
    obtain ⟨c, u', rfl⟩ : ∃ c u', u = c :: u' := by
      cases u with
      | nil => simp at hlen; omega
      | cons c u' => exact ⟨c, u', rfl⟩
    have hc : c ∈ (w ++ c :: u').take m := by
      rw [List.take_append, List.take_of_length_le (by omega)]
      obtain ⟨j, hj⟩ : ∃ j, m - w.length = j + 1 := ⟨m - w.length - 1, by omega⟩
      simp [hj]
    exact hlong.mem.not_blank hc (hu c rfl)
  obtain rfl : m = w.length := Nat.le_antisymm hle hge
  refine ⟨k, hm, number_kind hm, ?_⟩
  rw [number_decimal_iff hm, List.take_left]

theorem character_append {w u : List Char} (hw : IsCharacter w) :
    character (w ++ u) = some ⟨w.length, .ok .character⟩ := by
  obtain ⟨body, rfl, hbody⟩ := hw
  rcases hbody with ⟨x, rfl, hq, hb, hl⟩ | ⟨y, rfl, hy⟩
  · have hx : isBackslash x = false := by simpa [isBackslash] using hb
    have hp : isCharacterBody x = true := (isCharacterBody_iff x).mpr ⟨hq, hb, hl⟩
    simp [character, characterBody, closeCharacter, isSingleQuote, hx, hp, after]
  · have hesc : isEscapeLetter y = true := (isEscapeLetter_iff y).mpr hy
    simp [character, characterBody, closeCharacter, isSingleQuote, isBackslash, hesc, after]

theorem stringBody_append {body : List Char} (hb : StringBody body) (v : List Char) :
    stringBody (body ++ '"' :: v) = ⟨body.length + 1, .ok .string⟩ := by
  induction hb with
  | nil => simp [stringBody_cons, isDoubleQuote]
  | @plain x r hq hb hl _ ih =>
    have hx : isStringBody x = true := (isStringBody_iff x).mpr ⟨hq, hb, hl⟩
    have hq' : isDoubleQuote x = false := by simpa [isDoubleQuote] using hq
    have hb' : isBackslash x = false := by simpa [isBackslash] using hb
    simp only [List.cons_append, stringBody_cons, hq', hb', hx, Bool.false_eq_true, if_false,
      if_true, ih, after, List.length_cons]
  | @escape x r hx _ ih =>
    have hesc : isEscapeLetter x = true := (isEscapeLetter_iff x).mpr hx
    simp only [List.cons_append, stringBody_cons, isDoubleQuote, isBackslash, hesc, ih, after,
      List.length_cons]
    simp

theorem string_append {w u : List Char} (hw : IsString w) :
    string (w ++ u) = ⟨w.length, .ok .string⟩ := by
  obtain ⟨body, rfl, hbody⟩ := hw
  simp [string, isDoubleQuote, stringBody_append hbody, after]

theorem operator_comparison_append {c : Char} {u : List Char} (hc : isComparison c = true)
    (hu : Separator u) : operator (c :: u) = some ⟨1, .ok .operator⟩ := by
  cases u with
  | nil => simp [operator, hc]
  | cons x u => simp [operator, hc, (hu x rfl).isEquals]

theorem operator_append {w u : List Char} (hw : IsOperator w) (hu : Separator u) :
    operator (w ++ u) = some ⟨w.length, .ok .operator⟩ := by
  rcases hw with ⟨c, hc, rfl | rfl⟩ | ⟨c, hc, rfl⟩
  · exact operator_comparison_append ((isComparison_iff c).mpr hc) hu
  · simp [operator, (isComparison_iff c).mpr hc, isEquals]
  · by_cases hcmp : isComparison c = true
    · exact operator_comparison_append hcmp hu
    · simp [operator, hcmp, (isOperator_iff c).mpr hc]

end Extent

/-! ### A completed scan is read the same before a blank or the end -/

namespace Lexer

theorem classOf_cons_congr {a : Bool} {c : Char} {x y : List Char}
    (h : (!a && isSign c) = true → startsWithAll [isDigit] x = startsWithAll [isDigit] y) :
    classOf a (c :: x) = classOf a (c :: y) := by
  rw [classOf_cons, classOf_cons]
  by_cases hs : (!a && isSign c) = true
  · rw [h hs]
  · have hs' : (!a && isSign c) = false := by simpa using hs
    simp only [← Bool.and_assoc, hs', Bool.false_and]

theorem two_le_of_scan_signed {c : Char} {r : List Char} {n : Nat} {k : TokenKind}
    (hs : isSign c = true) (hr : startsWithAll [isDigit] r = true)
    (h : scan false (c :: r) = some ⟨n, .ok k⟩) : 2 ≤ n := by
  have hnum : classOf false (c :: r) = .number :=
    (classOf_number_iff false c r).mpr
      (.inr ⟨(isSign_iff c).mp hs, (startsWithAll_digit_iff r).mp hr, rfl⟩)
  unfold scan at h
  rw [hnum] at h
  obtain ⟨⟨m, k'⟩, hm, he⟩ := Option.map_eq_some_iff.mp h
  cases he
  obtain ⟨d, r', rfl⟩ : ∃ d r', r = d :: r' := by
    cases r with
    | nil => simp [startsWithAll] at hr
    | cons d r' => exact ⟨d, r', rfl⟩
  have hd : isDigit d = true := by simpa [startsWithAll] using hr
  have hsg : Extent.sign (c :: d :: r') = 1 := by simp [Extent.sign, hs, hd]
  obtain ⟨hdigits, hlen, -⟩ := Extent.number_eq_some hm
  rw [hsg] at hlen hdigits
  omega

/-- The class of the text ahead of a completed token is decided within the token, or by a digit
after a sign, which then belongs to the token. -/
theorem classOf_take_append {a : Bool} {R u : List Char} {n : Nat} {k : TokenKind}
    (h : scan a R = some ⟨n, .ok k⟩) (hu : Separator u) :
    classOf a (R.take n ++ u) = classOf a R := by
  have hpos := scan_pos h
  have hle := (scan_spec h).2.1.le_length
  obtain ⟨c, r, rfl⟩ : ∃ c r, R = c :: r := by
    cases R with
    | nil => simp at hle; omega
    | cons c r => exact ⟨c, r, rfl⟩
  obtain ⟨m, rfl⟩ : ∃ m, n = m + 1 := ⟨n - 1, by omega⟩
  rw [List.take_succ_cons, List.cons_append]
  apply classOf_cons_congr
  intro hsign
  cases m with
  | zero =>
    -- a one-character token: a sign with a digit after it would have started a longer number
    obtain ⟨ha, hs⟩ : a = false ∧ isSign c = true := by simpa using hsign
    subst ha
    have hr : startsWithAll [isDigit] r = false := by
      cases hr : startsWithAll [isDigit] r
      · rfl
      · have hlong := two_le_of_scan_signed hs hr h
        omega
    have hu' : startsWithAll [isDigit] u = false := by
      cases u with
      | nil => rfl
      | cons x u => simp [startsWithAll, (hu x rfl).isDigit]
    rw [List.take_zero, List.nil_append, hu', hr]
  | succ m =>
    cases r with
    | nil => simp at hle
    | cons d r => simp [startsWithAll]

/-- A scan that completes a token reads the same token when the text after it is cut off, or
replaced by text that starts with a blank. -/
theorem scan_take_append {a : Bool} {R u : List Char} {n : Nat} {k : TokenKind}
    (h : scan a R = some ⟨n, .ok k⟩) (hu : Separator u) :
    scan a (R.take n ++ u) = some ⟨n, .ok k⟩ := by
  obtain ⟨hcls, hlong, hdec⟩ := scan_spec h
  have hlen : (R.take n).length = n := List.length_take_of_le hlong.le_length
  have hword := hlong.mem
  unfold scan
  rw [classOf_take_append h hu, ← hcls]
  cases k with
  | identifier =>
    simp only [tokenClass]
    rw [Extent.identifier_append hword hu, hlen]
    rfl
  | character =>
    simp only [tokenClass]
    rw [Extent.character_append hword, hlen]
  | string =>
    simp only [tokenClass]
    rw [Extent.string_append hword, hlen]
  | operator =>
    simp only [tokenClass]
    rw [Extent.operator_append hword hu, hlen]
  | integer | decimal =>
    simp only [tokenClass]
    obtain ⟨k', hk', hkind, hk'dec⟩ := Extent.number_append hword hu
    rw [hk', hlen]
    -- both kinds are read off the same characters: decimal exactly when a mark is among them
    have hsame := (hdec rfl).trans hk'dec.symm
    rcases hkind with rfl | rfl <;> simp_all

theorem classOf_sign_afterOperand {c : Char} {r : List Char} (hs : isSign c = true) :
    classOf true (c :: r) = .operator := by
  have hc : c = '+' ∨ c = '-' := by simpa [isSign] using hs
  rw [classOf_cons]
  rcases hc with rfl | rfl <;> rfl

/-- After an operand a sign is an operator of one character, whatever follows it. -/
theorem scan_sign_afterOperand {c : Char} {r : List Char} (hs : isSign c = true) :
    scan true (c :: r) = some ⟨1, .ok .operator⟩ := by
  have hc : c = '+' ∨ c = '-' := by simpa [isSign] using hs
  unfold scan
  rw [classOf_sign_afterOperand hs]
  rcases hc with rfl | rfl <;> rfl

/-- On a whole token, which flag comes before it changes nothing, unless a sign and a digit start
it: after an operand the sign alone would be the token. -/
theorem scan_of_afterOperand {cs : List Char} {n : Nat} {k : TokenKind}
    (h : scan true cs = some ⟨n, .ok k⟩) (hn : n = cs.length) : scan false cs = some ⟨n, .ok k⟩ := by
  subst hn
  have hpos := scan_pos h
  obtain ⟨c, r, rfl⟩ : ∃ c r, cs = c :: r := by
    cases cs with
    | nil => simp at hpos
    | cons c r => exact ⟨c, r, rfl⟩
  by_cases hsd : isSign c = true ∧ startsWithAll [isDigit] r = true
  · -- the sign alone is the token, but a digit follows it
    obtain ⟨hs, hd⟩ := hsd
    rw [scan_sign_afterOperand hs] at h
    cases r with
    | nil => simp [startsWithAll] at hd
    | cons d r => simp at h
  · have hcls : classOf true (c :: r) = classOf false (c :: r) := by
      rw [classOf_cons, classOf_cons]
      have hno : (isSign c && startsWithAll [isDigit] r) = false := by simpa using hsd
      simp [hno]
    unfold scan at h ⊢
    rw [← hcls]
    exact h

/-- A token scanned on its own, with nothing after it and no operand before it, is read whole as
the same token. -/
theorem scan_alone {a : Bool} {R : List Char} {n : Nat} {k : TokenKind}
    (h : scan a R = some ⟨n, .ok k⟩) : scan false (R.take n) = some ⟨n, .ok k⟩ := by
  have happ := scan_take_append h separator_nil
  rw [List.append_nil] at happ
  cases a with
  | false => exact happ
  | true =>
    exact scan_of_afterOperand happ (List.length_take_of_le (scan_spec h).2.1.le_length).symm

theorem tokenStart_take_append {R u : List Char} {n : Nat} (h : TokenStart R) (hn : 0 < n)
    (hu : Separator u) : TokenStart (R.take n ++ u) := by
  obtain ⟨c, r, rfl, hblank, hslash⟩ := h
  obtain ⟨m, rfl⟩ : ∃ m, n = m + 1 := ⟨n - 1, by omega⟩
  refine ⟨c, r.take m ++ u, by simp, hblank, ?_⟩
  rintro ⟨rfl, hhead⟩
  have hslash' : ¬IsBlank '/' := by unfold IsBlank; decide
  cases m with
  | zero => exact hslash' (hu '/' (by simpa using hhead))
  | succ m =>
    cases r with
    | nil => exact hslash' (hu '/' (by simpa using hhead))
    | cons d r => exact hslash ⟨rfl, by simpa using hhead⟩

/-! ### The stream over a text built from tokens -/

theorem nextToken_of_scan {s : String} {lx : Lexer} {n : Nat} {k : TokenKind} (hb : Between s lx)
    (hstart : TokenStart (s.toList.drop lx.cursor.index))
    (hscan : scan lx.afterOperand (s.toList.drop lx.cursor.index) = some ⟨n, .ok k⟩) :
    ∃ lx', lx.nextToken = .ok (lx', some (.ok (tokenAt k s.toList lx.cursor.index n))) ∧
      Between s lx' ∧ lx'.cursor.index = lx.cursor.index + n ∧
      lx'.afterOperand = (tokenAt k s.toList lx.cursor.index n).endsOperand ∧
      lx'.stopped = lx.stopped := by
  obtain ⟨hne, hblank, hslash⟩ := (tokenStart_iff _).mp hstart
  rw [← hb.represents.rest_eq] at hne hblank hslash hscan
  have hc : lx.cursor.has 0 = true := (Cursor.has_iff _ _).mpr (List.length_pos_iff.mpr hne)
  obtain ⟨e, hscan', hfin⟩ := lexToken_eq_finish hne
  rw [hscan] at hscan'
  cases hscan'
  obtain ⟨lx', hfin', hb', hidx, ha, hs⟩ :=
    finish_of_ok hb (scan_pos hscan) (scan_spec hscan).2.1.le_length
  refine ⟨lx', ?_, hb', hidx, ha, hs⟩
  rw [nextToken_of_token hc (by simp [Cursor.peek, hblank]) (by simp [Cursor.peek, hslash]), hfin,
    hfin']
  rfl

theorem nextToken_of_blanks {s : String} {lx : Lexer} (hb : Between s lx)
    (hblank : startsWithAll [isBlank] (s.toList.drop lx.cursor.index) = true) :
    ∃ lx', lx.nextToken = lx'.nextToken ∧ Between s lx' ∧
      lx'.cursor.index = lx.cursor.index + Extent.blank (s.toList.drop lx.cursor.index) ∧
      lx'.afterOperand = lx.afterOperand ∧ lx'.stopped = lx.stopped := by
  rw [← hb.represents.rest_eq] at hblank ⊢
  have hpeek : lx.cursor.peek [isBlank] = true := hblank
  obtain ⟨c, he, hb', hidx⟩ := skip_emit hb (Extent.blank_pos hblank)
    (List.takeWhile_prefix isBlank).length_le
  have hskip : lx.skipBlank = .ok { lx with cursor := c } := by simp only [skipBlank, he]
  have hc : lx.cursor.has 0 = true := (Cursor.has_iff _ _).mpr
    (List.length_pos_iff.mpr (rest_ne_nil_of_peek hpeek))
  exact ⟨_, nextToken_of_blank hc hpeek hskip, hb', hidx, rfl, rfl⟩

/-- A token whose text is followed by nothing or a blank is read as the same token, and the
stream stops right after its text. -/
theorem nextToken_of_take_append {J : String} {lx : Lexer} {R u : List Char} {n : Nat}
    {k : TokenKind} (hb : Between J lx) (hstart : TokenStart R)
    (hscan : scan lx.afterOperand R = some ⟨n, .ok k⟩) (hu : Separator u)
    (hJ : J.toList.drop lx.cursor.index = R.take n ++ u) :
    ∃ lx', lx.nextToken = .ok (lx', some (.ok ⟨k, String.ofList (R.take n),
        ⟨lx.cursor.index, lx.cursor.index + n, Nat.le_add_right _ _⟩⟩)) ∧
      Between J lx' ∧ lx'.cursor.index = lx.cursor.index + n ∧ J.toList.drop lx'.cursor.index = u ∧
      lx'.afterOperand = (tokenAt k R 0 n).endsOperand ∧ lx'.stopped = lx.stopped := by
  have hlen : (R.take n).length = n := List.length_take_of_le (scan_spec hscan).2.1.le_length
  have hscan' : scan lx.afterOperand (J.toList.drop lx.cursor.index) = some ⟨n, .ok k⟩ := by
    rw [hJ]
    exact scan_take_append hscan hu
  have hstart' : TokenStart (J.toList.drop lx.cursor.index) := by
    rw [hJ]
    exact tokenStart_take_append hstart (scan_pos hscan) hu
  obtain ⟨lx', hnext, hb', hidx, ha, hs⟩ := nextToken_of_scan hb hstart' hscan'
  have hread : (J.toList.drop lx.cursor.index).take n = R.take n := by
    rw [hJ, List.take_left' hlen]
  refine ⟨lx', ?_, hb', hidx, ?_, ?_, hs⟩
  · rw [hnext]
    unfold tokenAt
    rw [hread]
  · rw [hidx, ← List.drop_drop, hJ, List.drop_left' hlen]
  · rw [ha]
    unfold tokenAt
    rw [hread]
    rfl

/-- One blank before a character that is no blank is skipped on its own. -/
theorem nextToken_of_space {J : String} {lx : Lexer} {tail : List Char} (hb : Between J lx)
    (hJ : J.toList.drop lx.cursor.index = ' ' :: tail) (htail : ∀ c ∈ tail.head?, isBlank c = false) :
    ∃ lx', lx.nextToken = lx'.nextToken ∧ Between J lx' ∧ lx'.cursor.index = lx.cursor.index + 1 ∧
      J.toList.drop lx'.cursor.index = tail ∧ lx'.afterOperand = lx.afterOperand ∧
      lx'.stopped = lx.stopped := by
  have hone : Extent.blank (J.toList.drop lx.cursor.index) = 1 := by
    have hspace : isBlank ' ' = true := by decide
    rw [hJ]
    cases tail with
    | nil => simp [Extent.blank, hspace]
    | cons c tail => simp [Extent.blank, hspace, htail c rfl]
  obtain ⟨lx', hnext, hb', hidx, ha, hs⟩ := nextToken_of_blanks hb (by rw [hJ]; rfl)
  rw [hone] at hidx
  refine ⟨lx', hnext, hb', hidx, ?_, ha, hs⟩
  rw [hidx, ← List.drop_drop, hJ]
  rfl

theorem next_at_end {s : String} {lx : Lexer} (hb : Between s lx) (hs : lx.stopped = false)
    (hend : s.toList.drop lx.cursor.index = []) : lx.next = .ok (lx, none) := by
  have hc : ¬lx.cursor.has 0 = true := by
    rw [Cursor.has_iff, hb.represents.rest_eq, hend]
    simp
  exact next_of_nextToken hs (nextToken_of_end hc) (by simp)

theorem next_congr {lx lx₁ : Lexer} (hs : lx.stopped = false) (hs₁ : lx₁.stopped = false)
    (h : lx.nextToken = lx₁.nextToken) : lx.next = lx₁.next := by
  unfold next
  rw [hs, hs₁, h]
  rfl

theorem collect_congr {lx lx₁ : Lexer} (h : lx.next = lx₁.next) (acc : List Token) :
    lx.collect acc = lx₁.collect acc := by
  cases hn : lx₁.next with
  | error f => rw [collect_of_fault hn, collect_of_fault (h.trans hn)]
  | ok p =>
    obtain ⟨lx', r⟩ := p
    rcases r with _ | _ | t
    · rw [collect_of_end hn, collect_of_end (h.trans hn)]
    · rw [collect_of_error hn, collect_of_error (h.trans hn)]
    · rw [collect_of_token hn, collect_of_token (h.trans hn)]

end Lexer

/-! ### Tokens read again -/

/-- The tokens `ts` laid out from offset `p` with one blank between two of them: each keeps its
kind and its text, and its span starts after the texts before it and one blank for each gap. -/
def Token.spaced : Nat → List Token → List Token
  | _, [] => []
  | p, t :: ts =>
    ⟨t.kind, t.text, ⟨p, p + t.text.length, Nat.le_add_right _ _⟩⟩ ::
      spaced (p + t.text.length + 1) ts

theorem Yields.mem_scan {s : List Char} {a : Bool} {i : Nat} {ts : List Token}
    {r : Option LexError} (h : Yields s a i ts r) {t : Token} (ht : t ∈ ts) :
    ∃ a' j n k, t = tokenAt k s j n ∧ TokenStart (s.drop j) ∧
      scan a' (s.drop j) = some ⟨n, .ok k⟩ := by
  induction h with
  | done => cases ht
  | error => cases ht
  | @token a i j n k ts r _ _ hstart hscan _ ih =>
    rcases List.mem_cons.mp ht with rfl | ht
    · exact ⟨a, j, n, k, rfl, hstart, hscan⟩
    · exact ih ht

theorem Yields.single {w : List Char} {k : TokenKind} (hstart : TokenStart w)
    (hscan : scan false w = some ⟨w.length, .ok k⟩) :
    Yields w false 0 [tokenAt k w 0 w.length] none :=
  .token (Nat.le_refl 0) (by simpa using Trivia.nil) (by simpa using hstart) (by simpa using hscan)
    (.done (by simpa using Trivia.nil))

theorem Yields.head_text {s : List Char} {a : Bool} {i : Nat} {t : Token} {ts : List Token}
    {r : Option LexError} (h : Yields s a i (t :: ts) r) :
    ∃ c rest, t.text.toList = c :: rest ∧ isBlank c = false := by
  cases h with
  | @token _ _ j n k _ _ _ _ hstart hscan _ =>
    obtain ⟨c, rest, hdrop, hblank, -⟩ := hstart
    obtain ⟨m, hm⟩ : ∃ m, n = m + 1 := ⟨n - 1, by have := scan_pos hscan; omega⟩
    refine ⟨c, rest.take m, by simp [tokenAt, hdrop, hm], ?_⟩
    exact Bool.eq_false_iff.mpr fun hb => hblank ((isBlank_iff c).mp hb)

/-- The lexer on the tokens of a pass printed with one blank between two of them: from each
token on, with the same flag before it as in the pass, it reads the rest of the tokens again, laid
out at their new places. -/
theorem Yields.collect_spaced {s : List Char} {a : Bool} {i : Nat} {ts : List Token}
    {r : Option LexError} (h : Yields s a i ts r) (hr : r = none) {J : String} {lx : Lexer}
    (hb : Between J lx) (hs : lx.stopped = false) (ha : lx.afterOperand = a)
    (hJ : J.toList.drop lx.cursor.index = [' '].intercalate (ts.map fun t => t.text.toList))
    (acc : List Token) :
    lx.collect acc = .ok (.ok (acc.reverse ++ Token.spaced lx.cursor.index ts)) := by
  induction h generalizing lx acc with
  | done =>
    rw [collect_of_end (next_at_end hb hs hJ)]
    simp [Token.spaced]
  | error => cases hr
  | @token a i j n k ts r _ _ hstart hscan hrest ih =>
    have htext : (tokenAt k s j n).text.toList = (s.drop j).take n := String.toList_ofList
    have htextlen : (tokenAt k s j n).text.length = n := by
      rw [← String.length_toList, htext, List.length_take_of_le (scan_spec hscan).2.1.le_length]
    -- after the token's text the printed text holds nothing, or a blank and the next tokens
    set tail := [' '].intercalate (ts.map fun t => t.text.toList) with htail
    set follow : List Char := if ts = [] then [] else ' ' :: tail with hfollow
    have hsplit : J.toList.drop lx.cursor.index = (s.drop j).take n ++ follow := by
      rw [hJ, List.map_cons, htext]
      cases ts with
      | nil => simp [hfollow]
      | cons t' ts' => simp [hfollow, htail]
    have hsep : Separator follow := by
      rw [hfollow]
      split
      · exact separator_nil
      · exact separator_space tail
    obtain ⟨lx₁, hnext, hb₁, hidx₁, hafter, ha₁, hs₁⟩ :=
      nextToken_of_take_append hb hstart (by rwa [ha]) hsep hsplit
    rw [hs] at hs₁
    have hspaced : Token.spaced lx.cursor.index (tokenAt k s j n :: ts) =
        ⟨k, String.ofList ((s.drop j).take n),
            ⟨lx.cursor.index, lx.cursor.index + n, Nat.le_add_right _ _⟩⟩ ::
          Token.spaced (lx.cursor.index + n + 1) ts := by
      simp only [Token.spaced, htextlen]
      rfl
    rw [collect_of_token (next_of_nextToken hs hnext (by simp)), hspaced]
    cases ts with
    | nil =>
      rw [collect_of_end (next_at_end hb₁ hs₁ (by simpa [hfollow] using hafter))]
      simp [Token.spaced]
    | cons t' ts' =>
      -- the next token starts with no blank, so the blank before it is skipped alone
      obtain ⟨c, rest, hhead, hc⟩ := hrest.head_text
      have hnoblank : ∀ x ∈ tail.head?, isBlank x = false := by
        rw [htail, List.map_cons, hhead, List.intercalate_cons_cons_left]
        simpa using hc
      obtain ⟨lx₂, hnext₂, hb₂, hidx₂, hJ₂, ha₂, hs₂⟩ :=
        nextToken_of_space hb₁ (by simpa [hfollow] using hafter) hnoblank
      rw [collect_congr (next_congr hs₁ (hs₂.trans hs₁) hnext₂),
        ih hr hb₂ (hs₂.trans hs₁) (ha₂.trans ha₁) hJ₂, hidx₂, hidx₁]
      simp

/-- Every token that `lex` gives lexes on its own, after no operand, to the one token of the
same kind and text that covers the whole of it. -/
theorem lex_token_alone {s : String} {ts : List Token} (h : lex s = .ok (.ok ts)) {t : Token}
    (ht : t ∈ ts) : lex t.text = .ok (.ok [⟨t.kind, t.text, ⟨0, t.text.length, Nat.zero_le _⟩⟩]) := by
  obtain ⟨a, j, n, k, rfl, hstart, hscan⟩ := (lex_ok_yields h).mem_scan ht
  set w := (s.toList.drop j).take n
  have hlen : w.length = n := List.length_take_of_le (scan_spec hscan).2.1.le_length
  -- on its own the token's text is a pass of one token: the same token, after no operand
  have halone : scan false w = some ⟨w.length, .ok k⟩ := by
    rw [hlen]
    exact scan_alone hscan
  have hstart' : TokenStart w := by
    simpa using tokenStart_take_append hstart (scan_pos hscan) separator_nil
  have hone := Yields.single hstart' halone
  have hrelex := hone.collect_spaced rfl (between_start (String.ofList w)) rfl rfl
    (by simp [tokenAt, Lexer.start]) []
  have hspaced : Token.spaced 0 [tokenAt k w 0 w.length] =
      [⟨k, String.ofList w, ⟨0, (String.ofList w).length, Nat.zero_le _⟩⟩] := by
    simp [Token.spaced, tokenAt]
  rw [show (start (String.ofList w)).cursor.index = 0 from rfl, hspaced, List.reverse_nil,
    List.nil_append] at hrelex
  exact hrelex

/-- After an operator the decimal `-1.5e3` keeps its sign, and so it does on its own. -/
theorem lex_token_alone_signed :
    lex "x = -1.5e3" = .ok (.ok [⟨.identifier, "x", ⟨0, 1, by decide⟩⟩,
        ⟨.operator, "=", ⟨2, 3, by decide⟩⟩, ⟨.decimal, "-1.5e3", ⟨4, 10, by decide⟩⟩]) ∧
      (⟨.decimal, "-1.5e3", ⟨4, 10, by decide⟩⟩ : Token) ∈ [⟨.identifier, "x", ⟨0, 1, by decide⟩⟩,
        ⟨.operator, "=", ⟨2, 3, by decide⟩⟩, ⟨.decimal, "-1.5e3", ⟨4, 10, by decide⟩⟩] ∧
      lex "-1.5e3" = .ok (.ok [⟨.decimal, "-1.5e3", ⟨0, "-1.5e3".length, Nat.zero_le _⟩⟩]) :=
  have hlex : lex "x = -1.5e3" = .ok (.ok [⟨.identifier, "x", ⟨0, 1, by decide⟩⟩,
      ⟨.operator, "=", ⟨2, 3, by decide⟩⟩, ⟨.decimal, "-1.5e3", ⟨4, 10, by decide⟩⟩]) := by
    decide +kernel
  have hmem : (⟨.decimal, "-1.5e3", ⟨4, 10, by decide⟩⟩ : Token) ∈
      [⟨.identifier, "x", ⟨0, 1, by decide⟩⟩, ⟨.operator, "=", ⟨2, 3, by decide⟩⟩,
        ⟨.decimal, "-1.5e3", ⟨4, 10, by decide⟩⟩] := by
    simp
  ⟨hlex, hmem, lex_token_alone hlex hmem⟩

/-- The tokens of a text, printed with one blank between two of them, lex to the same tokens:
the same kinds and texts in the same order, each now spanning its place in the printed text. -/
theorem lex_spaced_literals {s : String} {ts : List Token} (h : lex s = .ok (.ok ts)) :
    lex (" ".intercalate (ts.map Token.text)) = .ok (.ok (Token.spaced 0 ts)) := by
  set J := " ".intercalate (ts.map Token.text) with hJ
  have hprinted := (lex_ok_yields h).collect_spaced rfl (between_start J) rfl rfl
    (by simp [hJ, Lexer.start, List.map_map, Function.comp_def]) []
  rw [show (start J).cursor.index = 0 from rfl, List.reverse_nil, List.nil_append] at hprinted
  exact hprinted

/-- Printed with blanks, the `+` after `x` still follows an operand: it stays an operator and does
not join the `1` after it. -/
theorem lex_spaced_sum :
    lex "x+1" = .ok (.ok [⟨.identifier, "x", ⟨0, 1, by decide⟩⟩, ⟨.operator, "+", ⟨1, 2, by decide⟩⟩,
        ⟨.integer, "1", ⟨2, 3, by decide⟩⟩]) ∧
      lex (" ".intercalate ([⟨.identifier, "x", ⟨0, 1, by decide⟩⟩,
          ⟨.operator, "+", ⟨1, 2, by decide⟩⟩, ⟨.integer, "1", ⟨2, 3, by decide⟩⟩].map Token.text)) =
        .ok (.ok (Token.spaced 0 [⟨.identifier, "x", ⟨0, 1, by decide⟩⟩,
          ⟨.operator, "+", ⟨1, 2, by decide⟩⟩, ⟨.integer, "1", ⟨2, 3, by decide⟩⟩])) :=
  have hlex : lex "x+1" = .ok (.ok [⟨.identifier, "x", ⟨0, 1, by decide⟩⟩,
      ⟨.operator, "+", ⟨1, 2, by decide⟩⟩, ⟨.integer, "1", ⟨2, 3, by decide⟩⟩]) := by
    decide +kernel
  ⟨hlex, lex_spaced_literals hlex⟩

end Lexis
