import Mathlib
import Lexis.Proofs.Literals

/-!
The stream reads only what lies ahead of it. Two lexers between tokens that have the same
characters ahead, in two texts, skip the same trivia and scan the same tokens; when the second
stands `d` characters further into its text, every token and error it gives is the first one's
moved on by `d` (`Lexer.Aligned`). With the same flags the two passes agree to the end
(`Lexer.Aligned.collect`). When only the second comes after an operand, they differ at most in
the first token: a number with a sign is read there as the sign and the rest
(`Lexer.Aligned.collect_afterOperand`).
-/

namespace Lexis

open Grammar Chars

namespace Token

/-- The same token `d` characters further into a text. -/
def shift (d : Nat) (t : Token) : Token :=
  ⟨t.kind, t.text, ⟨t.span.start + d, t.span.stop + d, Nat.add_le_add_right t.span.start_le d⟩⟩

end Token

/-- The same lexical error `d` characters further into a text. -/
def LexError.shift (d : Nat) (e : LexError) : LexError := ⟨e.kind, e.offset + d⟩

namespace Lexer

/-- An item of the stream moved `d` characters on. -/
def shiftItem (d : Nat) (r : Option (Except LexError Token)) : Option (Except LexError Token) :=
  r.map fun x => (x.mapError (LexError.shift d)).map (Token.shift d)

theorem TokenStart.ne_nil {R : List Char} (h : TokenStart R) : R ≠ [] := by
  obtain ⟨c, r, rfl, -⟩ := h
  exact List.cons_ne_nil c r

theorem tokenAt_shift {s s' : List Char} {i d : Nat} (h : s'.drop (i + d) = s.drop i)
    (k : TokenKind) (n : Nat) : tokenAt k s' (i + d) n = (tokenAt k s i n).shift d := by
  simp only [tokenAt, Token.shift, h, Token.mk.injEq, Span.mk.injEq, true_and]
  omega

/-- Two lexers between tokens of the texts `s` and `s'` that have the same characters ahead and
have both stopped or neither; the second text is `d` characters longer, so the second lexer
stands `d` characters further into it. -/
structure Aligned (s s' : String) (d : Nat) (lx lx' : Lexer) : Prop where
  between : Between s lx
  between' : Between s' lx'
  length_eq : s'.length = s.length + d
  rest_eq : lx'.cursor.rest = lx.cursor.rest
  stopped_eq : lx'.stopped = lx.stopped

section Aligned

variable {s s' : String} {d : Nat} {lx lx' : Lexer}

theorem Aligned.index_eq (h : Aligned s s' d lx lx') : lx'.cursor.index = lx.cursor.index + d := by
  have hlen : lx'.cursor.rest.length = lx.cursor.rest.length := by rw [h.rest_eq]
  rw [h.between.represents.rest_eq, h.between'.represents.rest_eq, List.length_drop,
    List.length_drop, String.length_toList, String.length_toList] at hlen
  have := h.between.represents.index_le
  have := h.between'.represents.index_le
  have := h.length_eq
  omega

theorem Aligned.drop_eq (h : Aligned s s' d lx lx') :
    s'.toList.drop (lx.cursor.index + d) = s.toList.drop lx.cursor.index := by
  rw [← h.index_eq, ← h.between'.represents.rest_eq, ← h.between.represents.rest_eq, h.rest_eq]

/-- Two lexers between tokens at the same characters ahead are aligned again once each has
moved over the same number of them. -/
theorem Aligned.of_rest {lx₁ lx₁' : Lexer} (h : Aligned s s' d lx lx') (hb : Between s lx₁)
    (hb' : Between s' lx₁') {n : Nat} (hr : lx₁.cursor.rest = lx.cursor.rest.drop n)
    (hr' : lx₁'.cursor.rest = lx'.cursor.rest.drop n) (hs : lx₁'.stopped = lx₁.stopped) :
    Aligned s s' d lx₁ lx₁' :=
  ⟨hb, hb', h.length_eq, by rw [hr, hr', h.rest_eq], hs⟩

theorem Aligned.has_eq (h : Aligned s s' d lx lx') (n : Nat) :
    lx'.cursor.has n = lx.cursor.has n := by
  simp only [Cursor.has, h.rest_eq]

theorem Aligned.peek_eq (h : Aligned s s' d lx lx') (tests : List (Char → Bool)) :
    lx'.cursor.peek tests = lx.cursor.peek tests := by
  simp only [Cursor.peek, h.rest_eq]

theorem Aligned.skipBlank (h : Aligned s s' d lx lx') (hblank : lx.cursor.peek [isBlank] = true)
    {lx₁ : Lexer} (h₁ : lx.skipBlank = .ok lx₁) :
    ∃ lx₁', lx'.skipBlank = .ok lx₁' ∧ Aligned s s' d lx₁ lx₁' ∧
      lx₁.afterOperand = lx.afterOperand ∧ lx₁'.afterOperand = lx'.afterOperand ∧
      lx₁.stopped = lx.stopped := by
  obtain ⟨lx₂, h₂, hb₂, hskip₂⟩ := skipBlank_skips h.between hblank
  rw [h₁] at h₂
  cases h₂
  obtain ⟨lx₁', h₁', hb₁', hskip₁'⟩ := skipBlank_skips h.between' (by rwa [h.peek_eq])
  have hrest' : lx₁'.cursor.rest = lx'.cursor.rest.drop (Extent.blank lx.cursor.rest) := by
    rw [skipBlank_rest h₁', h.rest_eq]
  refine ⟨lx₁', h₁', h.of_rest hb₂ hb₁' (skipBlank_rest h₁) hrest' ?_, hskip₂.afterOperand_eq,
    hskip₁'.afterOperand_eq, hskip₂.stopped_eq⟩
  rw [hskip₁'.stopped_eq, hskip₂.stopped_eq, h.stopped_eq]

theorem Aligned.skipComment (h : Aligned s s' d lx lx')
    (hslash : lx.cursor.peek [isSlash, isSlash] = true) {lx₁ : Lexer}
    (h₁ : lx.skipComment = .ok lx₁) :
    ∃ lx₁', lx'.skipComment = .ok lx₁' ∧ Aligned s s' d lx₁ lx₁' ∧
      lx₁.afterOperand = lx.afterOperand ∧ lx₁'.afterOperand = lx'.afterOperand ∧
      lx₁.stopped = lx.stopped := by
  obtain ⟨lx₂, h₂, hb₂, hskip₂⟩ := skipComment_skips h.between hslash
  rw [h₁] at h₂
  cases h₂
  have hslash' : lx'.cursor.peek [isSlash, isSlash] = true := by rwa [h.peek_eq]
  obtain ⟨lx₁', h₁', hb₁', hskip₁'⟩ := skipComment_skips h.between' hslash'
  obtain ⟨n, hn, -⟩ := Extent.comment_isSome hslash
  have hn' : Extent.comment lx'.cursor.rest = some n := by rw [h.rest_eq]; exact hn
  refine ⟨lx₁', h₁', h.of_rest hb₂ hb₁' (skipComment_rest hn h₁) (skipComment_rest hn' h₁') ?_,
    hskip₂.afterOperand_eq, hskip₁'.afterOperand_eq, hskip₂.stopped_eq⟩
  rw [hskip₁'.stopped_eq, hskip₂.stopped_eq, h.stopped_eq]

/-- Two aligned lexers skip the same trivia: each step of the stream comes, for both at once, to
two aligned lexers at the end of their texts or where a token starts, and the flags are kept. -/
theorem Aligned.skips (h : Aligned s s' d lx lx') :
    ∃ lx₀ lx₀', Aligned s s' d lx₀ lx₀' ∧ lx.nextToken = lx₀.nextToken ∧
      lx'.nextToken = lx₀'.nextToken ∧ lx₀.afterOperand = lx.afterOperand ∧
      lx₀'.afterOperand = lx'.afterOperand ∧ lx₀.stopped = lx.stopped ∧
      ((lx₀.cursor.rest = [] ∧ lx₀.nextToken = .ok (lx₀, none) ∧
          lx₀'.nextToken = .ok (lx₀', none)) ∨
        (TokenStart lx₀.cursor.rest ∧ lx₀.nextToken = lx₀.lexToken.map (fun r => (r.1, some r.2)) ∧
          lx₀'.nextToken = lx₀'.lexToken.map (fun r => (r.1, some r.2)))) := by
  -- on the loop of the first lexer's stream; a skip of one is a skip of the other
  induction lx using nextToken.induct generalizing lx' with
  | case1 lx hc hblank f hf =>
    obtain ⟨lx₁, h₁⟩ := skipBlank_ok h.between.represents hblank
    rw [h₁] at hf
    cases hf
  | case2 lx hc hblank lx₁ h₁ ih =>
    obtain ⟨lx₁', h₁', hal, ha₁, ha₁', hs₁⟩ := h.skipBlank hblank h₁
    obtain ⟨lx₀, lx₀', hal₀, hn₀, hn₀', ha₀, ha₀', hs₀, hend⟩ := ih hal
    refine ⟨lx₀, lx₀', hal₀, (nextToken_of_blank hc hblank h₁).trans hn₀, ?_, ha₀.trans ha₁,
      ha₀'.trans ha₁', hs₀.trans hs₁, hend⟩
    rw [nextToken_of_blank (by rwa [h.has_eq]) (by rwa [h.peek_eq]) h₁', hn₀']
  | case3 lx hc hblank hslash f hf =>
    obtain ⟨lx₁, h₁⟩ := skipComment_ok h.between.represents hslash
    rw [h₁] at hf
    cases hf
  | case4 lx hc hblank hslash lx₁ h₁ ih =>
    obtain ⟨lx₁', h₁', hal, ha₁, ha₁', hs₁⟩ := h.skipComment hslash h₁
    obtain ⟨lx₀, lx₀', hal₀, hn₀, hn₀', ha₀, ha₀', hs₀, hend⟩ := ih hal
    refine ⟨lx₀, lx₀', hal₀, (nextToken_of_comment hc hblank hslash h₁).trans hn₀, ?_,
      ha₀.trans ha₁, ha₀'.trans ha₁', hs₀.trans hs₁, hend⟩
    rw [nextToken_of_comment (by rwa [h.has_eq]) (by rwa [h.peek_eq]) (by rwa [h.peek_eq]) h₁',
      hn₀']
  | case5 lx hc hblank hslash f hf =>
    refine ⟨lx, lx', h, rfl, rfl, rfl, rfl, rfl, .inr ⟨?_, nextToken_of_token hc hblank hslash,
      nextToken_of_token (by rwa [h.has_eq]) (by rwa [h.peek_eq]) (by rwa [h.peek_eq])⟩⟩
    rw [h.between.represents.rest_eq]
    exact tokenStart_of_peek h.between hc hblank hslash
  | case6 lx hc hblank hslash lx₁ r hr =>
    refine ⟨lx, lx', h, rfl, rfl, rfl, rfl, rfl, .inr ⟨?_, nextToken_of_token hc hblank hslash,
      nextToken_of_token (by rwa [h.has_eq]) (by rwa [h.peek_eq]) (by rwa [h.peek_eq])⟩⟩
    rw [h.between.represents.rest_eq]
    exact tokenStart_of_peek h.between hc hblank hslash
  | case7 lx hc =>
    have hrest : lx.cursor.rest = [] := by
      simpa [Cursor.has] using hc
    exact ⟨lx, lx', h, rfl, rfl, rfl, rfl, rfl, .inl ⟨hrest, nextToken_of_end hc,
      nextToken_of_end (by rwa [h.has_eq])⟩⟩

theorem rest_of_index {lx₁ : Lexer} (hb : Between s lx) (hb₁ : Between s lx₁) {n : Nat}
    (hidx : lx₁.cursor.index = lx.cursor.index + n) : lx₁.cursor.rest = lx.cursor.rest.drop n := by
  rw [hb₁.represents.rest_eq, hidx, hb.represents.rest_eq, List.drop_drop]

/-- Two aligned lexers finish a scan of the text ahead alike: the second gives the first one's
token or error moved on by `d`, and after a token the two are aligned again with the same flag. -/
theorem Aligned.finish (h : Aligned s s' d lx lx') {a : Bool} {e : Extent TokenKind} (he : scan a lx.cursor.rest = some e) :
    ∃ lx₁ lx₁' r, lx.finish e = .ok (lx₁, r) ∧
      lx'.finish e = .ok (lx₁', (r.mapError (LexError.shift d)).map (Token.shift d)) ∧
      ∀ t, r = .ok t → Aligned s s' d lx₁ lx₁' ∧ lx₁'.afterOperand = lx₁.afterOperand := by
  obtain ⟨n, o⟩ := e
  have hle : n ≤ lx.cursor.rest.length := scan_length_le he
  have hle' : n ≤ lx'.cursor.rest.length := by rw [h.rest_eq]; exact hle
  cases o with
  | ok k =>
    have hpos : 0 < n := scan_pos he
    obtain ⟨lx₁, hf, hb₁, hidx₁, ha₁, hs₁⟩ := finish_of_ok h.between hpos hle
    obtain ⟨lx₁', hf', hb₁', hidx₁', ha₁', hs₁'⟩ := finish_of_ok h.between' hpos hle'
    have htok : tokenAt k s'.toList lx'.cursor.index n =
        (tokenAt k s.toList lx.cursor.index n).shift d := by
      rw [h.index_eq]
      exact tokenAt_shift h.drop_eq k n
    refine ⟨lx₁, lx₁', _, hf, by rw [hf', htok]; rfl, fun t ht => ?_⟩
    cases ht
    refine ⟨h.of_rest hb₁ hb₁' (rest_of_index h.between hb₁ hidx₁)
      (rest_of_index h.between' hb₁' hidx₁') (by rw [hs₁, hs₁', h.stopped_eq]), ?_⟩
    rw [ha₁', ha₁, htok]
    rfl
  | error k =>
    -- the error stands where the scan stopped, `n` characters on in both texts
    have hidx : (lx.skip n).cursor.index = lx.cursor.index + n :=
      (h.between.represents.advance (index_add_le h.between.represents hle)).2.1
    have hidx' : (lx'.skip n).cursor.index = lx'.cursor.index + n :=
      (h.between'.represents.advance (index_add_le h.between'.represents hle')).2.1
    refine ⟨lx.skip n, lx'.skip n, .error ⟨k, (lx.skip n).cursor.index⟩, finish_of_error lx rfl,
      ?_, fun t ht => by cases ht⟩
    rw [finish_of_error lx' rfl]
    simp only [Except.mapError, Except.map, LexError.shift, hidx, hidx', h.index_eq,
      Nat.add_right_comm]

/-- Two aligned lexers whose flags lead to the same scan of the text ahead take the same step
there: the second gives the first one's token or error moved on by `d`. -/
theorem Aligned.lexToken (h : Aligned s s' d lx lx')
    (hscan : scan lx'.afterOperand lx.cursor.rest = scan lx.afterOperand lx.cursor.rest)
    (hr : lx.cursor.rest ≠ []) :
    ∃ lx₁ lx₁' r, lx.lexToken = .ok (lx₁, r) ∧
      lx'.lexToken = .ok (lx₁', (r.mapError (LexError.shift d)).map (Token.shift d)) ∧
      ∀ t, r = .ok t → Aligned s s' d lx₁ lx₁' ∧ lx₁'.afterOperand = lx₁.afterOperand := by
  obtain ⟨e, he, hfin⟩ := lexToken_eq_finish hr
  obtain ⟨e', he', hfin'⟩ := lexToken_eq_finish (by rwa [h.rest_eq] : lx'.cursor.rest ≠ [])
  rw [h.rest_eq, hscan, he, Option.some.injEq] at he'
  subst he'
  obtain ⟨lx₁, lx₁', r, hf, hf', hal⟩ := h.finish he
  exact ⟨lx₁, lx₁', r, hfin.trans hf, hfin'.trans hf', hal⟩

/-- Two aligned lexers with the same flag take the same step of the stream, the second moved on
by `d`; after a token they are aligned again with the same flag. -/
theorem Aligned.nextToken (h : Aligned s s' d lx lx') (ha : lx'.afterOperand = lx.afterOperand)
    {lx₁ : Lexer} {r : Option (Except LexError Token)} (hn : lx.nextToken = .ok (lx₁, r)) :
    ∃ lx₁', lx'.nextToken = .ok (lx₁', shiftItem d r) ∧
      ∀ t, r = some (.ok t) → Aligned s s' d lx₁ lx₁' ∧ lx₁'.afterOperand = lx₁.afterOperand := by
  obtain ⟨lx₀, lx₀', hal, hn₀, hn₀', ha₀, ha₀', -, hend⟩ := h.skips
  have ha' : lx₀'.afterOperand = lx₀.afterOperand := by rw [ha₀', ha₀, ha]
  rw [hn₀] at hn
  rcases hend with ⟨-, hnone, hnone'⟩ | ⟨hstart, htok, htok'⟩
  · rw [hnone, Except.ok.injEq, Prod.mk.injEq] at hn
    obtain ⟨rfl, rfl⟩ := hn
    exact ⟨lx₀', by rw [hn₀', hnone']; rfl, fun t ht => by cases ht⟩
  · obtain ⟨lx₂, lx₂', r₂, hl, hl', hal₂⟩ := hal.lexToken (by rw [ha']) hstart.ne_nil
    rw [htok, hl] at hn
    simp only [Except.map, Except.ok.injEq, Prod.mk.injEq] at hn
    obtain ⟨rfl, rfl⟩ := hn
    refine ⟨lx₂', by rw [hn₀', htok', hl']; rfl, fun t ht => hal₂ t ?_⟩
    cases ht
    rfl

theorem next_of_nextToken_error {lx₁ : Lexer} {e : LexError} (hs : lx.stopped = false)
    (h : lx.nextToken = .ok (lx₁, some (.error e))) :
    lx.next = .ok ({ lx₁ with stopped := true }, some (.error e)) := by
  unfold next
  rw [if_neg (by simp [hs]), h]

/-- Two aligned lexers with the same flag pull the same item from the stream, the second moved on
by `d`; after a token they are aligned again with the same flag. -/
theorem Aligned.next (h : Aligned s s' d lx lx') (ha : lx'.afterOperand = lx.afterOperand)
    {lx₁ : Lexer} {r : Option (Except LexError Token)} (hn : lx.next = .ok (lx₁, r)) :
    ∃ lx₁', lx'.next = .ok (lx₁', shiftItem d r) ∧
      ∀ t, r = some (.ok t) → Aligned s s' d lx₁ lx₁' ∧ lx₁'.afterOperand = lx₁.afterOperand := by
  cases hs : lx.stopped with
  | true =>
    rw [next_of_stopped hs, Except.ok.injEq, Prod.mk.injEq] at hn
    obtain ⟨rfl, rfl⟩ := hn
    exact ⟨lx', next_of_stopped (h.stopped_eq.trans hs), fun t ht => by cases ht⟩
  | false =>
    have hs' : lx'.stopped = false := h.stopped_eq.trans hs
    obtain ⟨⟨lx₂, r₂⟩, hn₂, -⟩ := nextToken_ok h.between.represents
    obtain ⟨lx₂', hn₂', hal₂⟩ := h.nextToken ha hn₂
    -- the item decides whether `next` marks the stream as ended
    rcases r₂ with _ | e | t
    · rw [next_of_nextToken hs hn₂ (by simp), Except.ok.injEq, Prod.mk.injEq] at hn
      obtain ⟨rfl, rfl⟩ := hn
      exact ⟨lx₂', next_of_nextToken hs' hn₂' (by simp [shiftItem]), fun t ht => by cases ht⟩
    · rw [next_of_nextToken_error hs hn₂, Except.ok.injEq, Prod.mk.injEq] at hn
      obtain ⟨rfl, rfl⟩ := hn
      exact ⟨_, next_of_nextToken_error hs' hn₂', fun t ht => by cases ht⟩
    · rw [next_of_nextToken hs hn₂ (by simp), Except.ok.injEq, Prod.mk.injEq] at hn
      obtain ⟨rfl, rfl⟩ := hn
      exact ⟨lx₂', next_of_nextToken hs' hn₂' (by simp [shiftItem, Except.mapError, Except.map]),
        hal₂⟩

/-- Two aligned lexers with the same flag make the same pass, the second with every token and
the error moved on by `d`. -/
theorem Aligned.collect (h : Aligned s s' d lx lx') (ha : lx'.afterOperand = lx.afterOperand)
    (acc acc' : List Token) :
    ∃ ts r, lx.collect acc = .ok (passResult (acc.reverse ++ ts) r) ∧
      lx'.collect acc' =
        .ok (passResult (acc'.reverse ++ ts.map (Token.shift d)) (r.map (LexError.shift d))) := by
  -- on the loop of the first lexer's pass; the second pulls the same items
  induction lx, acc using collect.induct generalizing lx' acc' with
  | case1 lx acc f hf =>
    obtain ⟨r, hr, -⟩ := next_ok h.between.represents
    rw [hr] at hf
    cases hf
  | case2 lx acc lx₁ hn =>
    obtain ⟨lx₁', hn', -⟩ := h.next ha hn
    exact ⟨[], none, by rw [collect_of_end hn]; simp [passResult],
      by rw [collect_of_end hn']; simp [passResult]⟩
  | case3 lx acc lx₁ e hn =>
    obtain ⟨lx₁', hn', -⟩ := h.next ha hn
    exact ⟨[], some e, by rw [collect_of_error hn]; rfl, by rw [collect_of_error hn']; rfl⟩
  | case4 lx acc lx₁ t hn ih =>
    obtain ⟨lx₁', hn', hal₁⟩ := h.next ha hn
    obtain ⟨hal, ha₁⟩ := hal₁ t rfl
    obtain ⟨ts, r, hc, hc'⟩ := ih hal ha₁ (t.shift d :: acc')
    refine ⟨t :: ts, r, by rw [collect_of_token hn, hc]; simp, ?_⟩
    rw [collect_of_token hn', hc']
    simp

end Aligned

/-! ### A sign after an operand -/

theorem Extent.number_sign_cons {c d : Char} (r : List Char) (hs : isSign c = true)
    (hd : isDigit d = true) :
    Extent.number (c :: d :: r) = (Extent.number (d :: r)).map fun nk => (nk.1 + 1, nk.2) := by
  have h1 : Extent.sign (c :: d :: r) = 1 := by simp [Extent.sign, hs, hd]
  have h0 : Extent.sign (d :: r) = 0 := by
    cases r <;> simp [Extent.sign, isSign_eq_false_of_isDigit hd]
  simp only [Extent.number, h1, h0, List.drop_zero, List.drop_succ_cons]
  split <;> simp
  omega

/-- Where a sign and a digit start the text, the scan at the start reads a number and the scan
after an operand reads the sign alone; the number without its sign is read from the digit on. -/
theorem scan_signed {R : List Char} (h : startsWithAll [isSign, isDigit] R = true) :
    ∃ c r n k, R = c :: r ∧ isSign c = true ∧ (k = .integer ∨ k = .decimal) ∧
      scan false R = some ⟨n + 2, .ok k⟩ ∧ scan true R = some ⟨1, .ok .operator⟩ ∧
      scan false r = some ⟨n + 1, .ok k⟩ ∧ TokenStart r := by
  rcases R with _ | ⟨c, _ | ⟨d, r⟩⟩
  · simp [startsWithAll] at h
  · simp [startsWithAll] at h
  have hs : isSign c = true := by simp_all [startsWithAll]
  have hd : isDigit d = true := by simp_all [startsWithAll]
  have hdigit : startsWithAll [isDigit] (d :: r) = true := by simp [startsWithAll, hd]
  obtain ⟨m, k, hm⟩ := Extent.number_isSome (Or.inl hdigit)
  have hpos : 0 < m := Extent.number_pos hm
  obtain ⟨n, rfl⟩ : ∃ n, m = n + 1 := ⟨m - 1, by omega⟩
  have hcls : classOf false (c :: d :: r) = .number :=
    (classOf_number_iff false c (d :: r)).mpr
      (.inr ⟨(isSign_iff c).mp hs, (startsWithAll_digit_iff _).mp hdigit, rfl⟩)
  have hcls' : classOf false (d :: r) = .number :=
    (classOf_number_iff false d r).mpr (.inl ((isDigit_iff d).mp hd))
  have hstart : TokenStart (d :: r) := by
    refine ⟨d, r, rfl, fun hb => ?_, fun hslash => ?_⟩
    · rw [hb.isDigit] at hd
      cases hd
    · rw [hslash.1] at hd
      exact absurd hd (by decide)
  refine ⟨c, d :: r, n, k, rfl, hs, Extent.number_kind hm, ?_, scan_sign_afterOperand hs, ?_,
    hstart⟩
  · unfold scan
    rw [hcls, Extent.number_sign_cons r hs hd, hm]
    rfl
  · unfold scan
    rw [hcls', hm]
    rfl


theorem scan_true_of_unsigned {R : List Char} (h : startsWithAll [isSign, isDigit] R = false) :
    scan true R = scan false R := by
  have hcls : classOf true R = classOf false R := by simp [classOf, h]
  unfold scan
  rw [hcls]

end Lexer

namespace Token

/-- A token read after an operand instead: a number whose literal starts with a sign is read as
an operator for the sign and a number of the same kind for the rest; any other token stays. -/
def splitSign (t : Token) : List Token :=
  match t.text.toList with
  | c :: cs =>
    if (t.kind = .integer ∨ t.kind = .decimal) ∧ isSign c = true then
      [⟨.operator, String.ofList [c], ⟨t.span.start, t.span.start + 1, Nat.le_succ _⟩⟩,
        ⟨t.kind, String.ofList cs,
          ⟨t.span.start + 1, t.span.start + 1 + cs.length, Nat.le_add_right _ _⟩⟩]
    else [t]
  | [] => [t]

/-- The tokens of a text read after an operand instead of at its start: only the first may
change, as `splitSign` says. -/
def readAfterOperand : List Token → List Token
  | [] => []
  | t :: ts => t.splitSign ++ ts

end Token

namespace Lexer

theorem splitSign_tokenAt {s : List Char} {i n : Nat} {k : TokenKind}
    (hscan : scan false (s.drop i) = some ⟨n, .ok k⟩)
    (hunsigned : startsWithAll [isSign, isDigit] (s.drop i) = false) :
    (tokenAt k s i n).splitSign = [tokenAt k s i n] := by
  have hpos := scan_pos hscan
  have hcls := (scan_spec hscan).1
  obtain ⟨c, r, hcr⟩ : ∃ c r, s.drop i = c :: r := by
    cases hd : s.drop i with
    | nil => rw [hd] at hscan; simp [scan, classOf, startsWithAll, Extent.operator] at hscan
    | cons c r => exact ⟨c, r, rfl⟩
  obtain ⟨m, rfl⟩ : ∃ m, n = m + 1 := ⟨n - 1, by omega⟩
  have htext : (tokenAt k s i (m + 1)).text.toList = c :: r.take m := by
    simp [tokenAt, hcr]
  unfold Token.splitSign
  rw [htext]
  simp only
  rw [if_neg]
  rintro ⟨hk, hc⟩
  -- a number here starts with a digit, since no sign and digit do
  rw [hcr] at hcls hunsigned
  have hnum : classOf false (c :: r) = .number := by
    rw [← hcls]
    exact tokenClass_eq_number.mpr hk
  rcases (classOf_number_iff false c r).mp hnum with hd | ⟨-, ⟨d, hd, hdig⟩, -⟩
  · rw [isSign_eq_false_of_isDigit ((isDigit_iff c).mpr hd)] at hc
    cases hc
  · cases r with
    | nil => cases hd
    | cons d' r =>
      simp only [List.head?_cons, Option.some.injEq] at hd
      subst hd
      simp [startsWithAll, hc, (isDigit_iff _).mpr hdig] at hunsigned

theorem splitSign_tokenAt_signed {s r : List Char} {c : Char} {i n : Nat} {k : TokenKind}
    (hcr : s.drop i = c :: r) (hc : isSign c = true) (hk : k = .integer ∨ k = .decimal)
    (hn : n + 1 ≤ r.length) :
    (tokenAt k s i (n + 2)).splitSign = [tokenAt .operator s i 1, tokenAt k s (i + 1) (n + 1)] := by
  have htext : (tokenAt k s i (n + 2)).text.toList = c :: r.take (n + 1) := by
    simp [tokenAt, hcr]
  have hdrop : s.drop (i + 1) = r := by
    rw [← List.drop_drop, hcr]
    rfl
  unfold Token.splitSign
  rw [htext]
  simp only
  rw [if_pos ⟨hk, hc⟩]
  simp [tokenAt, hcr, hdrop, List.length_take_of_le hn]

section AfterOperand

variable {s s' : String} {d : Nat} {lx lx' : Lexer}

theorem tokenAt_sign_endsOperand {s : List Char} {i : Nat} {c : Char} {r : List Char}
    (hcr : s.drop i = c :: r) (hc : isSign c = true) :
    (tokenAt .operator s i 1).endsOperand = false := by
  have hsign : c = '+' ∨ c = '-' := by simpa [isSign] using hc
  have hclose : String.ofList [c] ≠ ")" ∧ String.ofList [c] ≠ "]" ∧ String.ofList [c] ≠ "\x7d" := by
    rcases hsign with rfl | rfl <;> decide
  simp only [tokenAt, hcr, List.take_succ_cons, List.take_zero]
  exact (endsOperand_eq_false_iff _).mpr ⟨rfl, hclose⟩

theorem tokenAt_number_endsOperand {k : TokenKind} (hk : k = .integer ∨ k = .decimal)
    (s : List Char) (i n : Nat) : (tokenAt k s i n).endsOperand = true := by
  rcases hk with rfl | rfl <;> rfl

/-- The step at a sign and a digit after an operand: the second lexer reads the sign and then
the number without it, and ends aligned with the first one, which read the whole number. -/
theorem Aligned.nextToken_signed (h : Aligned s s' d lx lx') (hf : lx.afterOperand = false)
    (ht : lx'.afterOperand = true) (hsd : startsWithAll [isSign, isDigit] lx.cursor.rest = true) :
    ∃ c r n k lx₁ lx₁' lx₂', s.toList.drop lx.cursor.index = c :: r ∧ isSign c = true ∧
      (k = .integer ∨ k = .decimal) ∧ n + 1 ≤ r.length ∧
      lx.nextToken = .ok (lx₁, some (.ok (tokenAt k s.toList lx.cursor.index (n + 2)))) ∧
      lx'.nextToken = .ok (lx₁', some (.ok (tokenAt .operator s'.toList lx'.cursor.index 1))) ∧
      lx₁'.nextToken =
        .ok (lx₂', some (.ok (tokenAt k s'.toList (lx'.cursor.index + 1) (n + 1)))) ∧
      lx₁'.stopped = lx'.stopped ∧ Aligned s s' d lx₁ lx₂' ∧ lx₂'.afterOperand = lx₁.afterOperand := by
  obtain ⟨c, r, n, k, hcr, hc, hk, hscanF, hscanT, hscanR, hstartR⟩ := scan_signed hsd
  have hR : s.toList.drop lx.cursor.index = c :: r := by rw [← h.between.represents.rest_eq, hcr]
  have hR' : s'.toList.drop lx'.cursor.index = c :: r := by
    rw [← h.between'.represents.rest_eq, h.rest_eq, hcr]
  have hsign : c = '+' ∨ c = '-' := by simpa [isSign] using hc
  have hstart : TokenStart (c :: r) := by
    refine ⟨c, r, rfl, fun hb => ?_, fun hsl => ?_⟩
    · rcases hsign with rfl | rfl <;> revert hb <;> unfold IsBlank <;> decide
    · rcases hsign with rfl | rfl <;> cases hsl.1
  -- the first lexer reads the whole number
  obtain ⟨lx₁, hn₁, hb₁, hidx₁, ha₁, hs₁⟩ :=
    nextToken_of_scan h.between (by rwa [hR]) (by rw [hR, hf, ← hcr]; exact hscanF)
  -- the second reads the sign, then the number from its digit on
  obtain ⟨lx₁', hn₁', hb₁', hidx₁', ha₁', hs₁'⟩ :=
    nextToken_of_scan h.between' (by rwa [hR']) (by rw [hR', ht, ← hcr]; exact hscanT)
  have hrest₁' : s'.toList.drop lx₁'.cursor.index = r := by
    rw [hidx₁', ← List.drop_drop, hR']
    rfl
  have hop : lx₁'.afterOperand = false := by
    rw [ha₁']
    exact tokenAt_sign_endsOperand hR' hc
  obtain ⟨lx₂', hn₂', hb₂', hidx₂', ha₂', hs₂'⟩ :=
    nextToken_of_scan hb₁' (by rwa [hrest₁']) (by rw [hrest₁', hop]; exact hscanR)
  have hlen : n + 1 ≤ r.length := by
    have := scan_length_le hscanR
    simpa using this
  refine ⟨c, r, n, k, lx₁, lx₁', lx₂', hR, hc, hk, hlen, hn₁, hn₁', ?_, hs₁', ?_, ?_⟩
  · rw [hn₂', hidx₁']
  · refine h.of_rest hb₁ hb₂' (rest_of_index h.between hb₁ hidx₁)
      (rest_of_index h.between' hb₂' (by rw [hidx₂', hidx₁']; omega)) ?_
    rw [hs₂', hs₁', hs₁, h.stopped_eq]
  · rw [ha₂', ha₁, tokenAt_number_endsOperand hk, tokenAt_number_endsOperand hk]

/-- A signed number ahead: the first lexer reads it as one token, the second, after an operand,
as the sign and the number without it, and the two passes go on aligned. -/
theorem Aligned.collect_signed (h : Aligned s s' d lx lx') (hf : lx.afterOperand = false)
    (ht : lx'.afterOperand = true) (hs : lx.stopped = false)
    (hsd : startsWithAll [isSign, isDigit] lx.cursor.rest = true) (acc acc' : List Token) :
    ∃ ts r, lx.collect acc = .ok (passResult (acc.reverse ++ ts) r) ∧
      lx'.collect acc' = .ok (passResult
        (acc'.reverse ++ (Token.readAfterOperand ts).map (Token.shift d)) (r.map (LexError.shift d))) := by
  have hs' : lx'.stopped = false := h.stopped_eq.trans hs
  obtain ⟨c, r, n, k, lx₁, lx₁', lx₂', hcr, hc, hk, hlen, hn₁, hn₁', hn₂', hs₁', hal₂, ha₂⟩ :=
    h.nextToken_signed hf ht hsd
  obtain ⟨ts, r₁, hc₁, hc₂⟩ := hal₂.collect ha₂
    (tokenAt k s.toList lx.cursor.index (n + 2) :: acc)
    (tokenAt k s'.toList (lx'.cursor.index + 1) (n + 1) ::
      tokenAt .operator s'.toList lx'.cursor.index 1 :: acc')
  refine ⟨tokenAt k s.toList lx.cursor.index (n + 2) :: ts, r₁, ?_, ?_⟩
  · rw [collect_of_token (next_of_nextToken hs hn₁ (by simp)), hc₁]
    simp
  · rw [collect_of_token (next_of_nextToken hs' hn₁' (by simp)),
      collect_of_token (next_of_nextToken (hs₁'.trans hs') hn₂' (by simp)), hc₂]
    -- the two tokens of the second pass are the split of the first one's token, moved on
    have hdrop₁ : s'.toList.drop (lx.cursor.index + 1 + d) = s.toList.drop (lx.cursor.index + 1) := by
      rw [Nat.add_right_comm, ← List.drop_drop, h.drop_eq, List.drop_drop]
    rw [Token.readAfterOperand, splitSign_tokenAt_signed hcr hc hk hlen, h.index_eq,
      tokenAt_shift h.drop_eq, Nat.add_right_comm, tokenAt_shift hdrop₁]
    simp

/-- A token ahead that is no signed number: both lexers take the same step, the token or error
of the second moved on by `d`, and after a token the passes go on aligned with one flag. -/
theorem Aligned.collect_unsigned (h : Aligned s s' d lx lx') (hf : lx.afterOperand = false)
    (ht : lx'.afterOperand = true) (hs : lx.stopped = false) (hstart : TokenStart lx.cursor.rest)
    (htok : lx.nextToken = lx.lexToken.map (fun r => (r.1, some r.2)))
    (htok' : lx'.nextToken = lx'.lexToken.map (fun r => (r.1, some r.2)))
    (hsd : startsWithAll [isSign, isDigit] lx.cursor.rest = false) (acc acc' : List Token) :
    ∃ ts r, lx.collect acc = .ok (passResult (acc.reverse ++ ts) r) ∧
      lx'.collect acc' = .ok (passResult
        (acc'.reverse ++ (Token.readAfterOperand ts).map (Token.shift d)) (r.map (LexError.shift d))) := by
  have hs' : lx'.stopped = false := h.stopped_eq.trans hs
  have hscan : scan lx'.afterOperand lx.cursor.rest = scan lx.afterOperand lx.cursor.rest := by
    rw [ht, hf]
    exact scan_true_of_unsigned hsd
  obtain ⟨lx₁, lx₁', r₁, hl, hl', hal₁⟩ := h.lexToken hscan hstart.ne_nil
  have hn₁ : lx.nextToken = .ok (lx₁, some r₁) := by rw [htok, hl]; rfl
  have hn₁' : lx'.nextToken =
      .ok (lx₁', some ((r₁.mapError (LexError.shift d)).map (Token.shift d))) := by
    rw [htok', hl']; rfl
  cases r₁ with
  | error e =>
    refine ⟨[], some e, ?_, ?_⟩
    · rw [collect_of_error (next_of_nextToken_error hs hn₁)]
      rfl
    · rw [collect_of_error (next_of_nextToken_error hs' hn₁')]
      rfl
  | ok t =>
    obtain ⟨hal₂, ha₂⟩ := hal₁ t rfl
    obtain ⟨n, k, hscanF, rfl, -⟩ := lexToken_token h.between hl
    have hR : s.toList.drop lx.cursor.index = lx.cursor.rest := h.between.represents.rest_eq.symm
    have hsplit := splitSign_tokenAt (by rw [hf] at hscanF; exact hscanF) (by rw [hR]; exact hsd)
    obtain ⟨ts, r, hc₁, hc₂⟩ := hal₂.collect ha₂
      (tokenAt k s.toList lx.cursor.index n :: acc)
      ((tokenAt k s.toList lx.cursor.index n).shift d :: acc')
    refine ⟨tokenAt k s.toList lx.cursor.index n :: ts, r, ?_, ?_⟩
    · rw [collect_of_token (next_of_nextToken hs hn₁ (by simp)), hc₁]
      simp
    · rw [collect_of_token (next_of_nextToken hs' hn₁' (by simp)), hc₂, Token.readAfterOperand,
        hsplit]
      simp

/-- Two aligned lexers of which only the second comes after an operand make the same pass but for
the first token: where a number with a sign starts, the second reads the sign and the rest of
the number as two tokens. -/
theorem Aligned.collect_afterOperand (h : Aligned s s' d lx lx') (hf : lx.afterOperand = false)
    (ht : lx'.afterOperand = true) (hs : lx.stopped = false) (acc acc' : List Token) :
    ∃ ts r, lx.collect acc = .ok (passResult (acc.reverse ++ ts) r) ∧
      lx'.collect acc' = .ok (passResult
        (acc'.reverse ++ (Token.readAfterOperand ts).map (Token.shift d)) (r.map (LexError.shift d))) := by
  obtain ⟨lx₀, lx₀', hal, hn₀, hn₀', ha₀, ha₀', hs₀, hend⟩ := h.skips
  have hs' : lx'.stopped = false := h.stopped_eq.trans hs
  have hs₀f : lx₀.stopped = false := hs₀.trans hs
  have hs₀' : lx₀'.stopped = false := hal.stopped_eq.trans hs₀f
  -- each pass is the pass from where its trivia end
  rw [collect_congr (next_congr hs hs₀f hn₀), collect_congr (next_congr hs' hs₀' hn₀')]
  rcases hend with ⟨-, hnone, hnone'⟩ | ⟨hstart, htok, htok'⟩
  · refine ⟨[], none, ?_, ?_⟩
    · rw [collect_of_end (next_of_nextToken hs₀f hnone (by simp))]
      simp [passResult]
    · rw [collect_of_end (next_of_nextToken hs₀' hnone' (by simp))]
      simp [passResult, Token.readAfterOperand]
  cases hsd : startsWithAll [isSign, isDigit] lx₀.cursor.rest with
  | true => exact hal.collect_signed (ha₀.trans hf) (ha₀'.trans ht) hs₀f hsd acc acc'
  | false =>
    exact hal.collect_unsigned (ha₀.trans hf) (ha₀'.trans ht) hs₀f hstart htok htok' hsd acc acc'

end AfterOperand

end Lexer

end Lexis
