import Lexis.Proofs.Pass

/-!
A text with no token in it. The stream skips trivia greedily: a blank run as far as it goes, and
a comment up to the next line break. Trivia may be cut into blanks and comments in many ways (a
comment may hold further slashes, blanks may be read one by one or as a run), but whatever the
greedy skips leave of trivia is again trivia, and trivia never starts a token. So a text lexes to
no token exactly when it is trivia. Main statement: `lex_eq_nil_iff_trivia`.
-/

namespace Lexis

open Grammar Lexer Chars

namespace Grammar.Trivia

theorem tail {c : Char} {r : List Char} (h : Trivia (c :: r)) (hc : IsBlank c) : Trivia r := by
  cases h with
  | blank _ hr => exact hr
  | comment => exact absurd hc (by simp [IsBlank])

/-- What a maximal blank run of trivia leaves is trivia. -/
theorem dropWhile_blank {R : List Char} (h : Trivia R) : Trivia (R.dropWhile isBlank) := by
  induction R with
  | nil => exact .nil
  | cons c r ih =>
    by_cases hc : isBlank c = true
    · rw [List.dropWhile_cons_of_pos hc]
      exact ih (h.tail ((isBlank_iff c).mp hc))
    · rw [List.dropWhile_cons_of_neg hc]
      exact h

/-- What trivia leaves after its first line break, that break included, is trivia: no comment
runs over a line break, so the pieces before it end right there. -/
theorem dropWhile_not_lineBreak {R : List Char} (h : Trivia R) :
    Trivia (R.dropWhile fun c => !isLineBreak c) := by
  induction h with
  | nil => exact .nil
  | @blank c r hc hr ih =>
    by_cases hlb : isLineBreak c = true
    · rw [List.dropWhile_cons_of_neg (by simp [hlb])]
      exact .blank hc hr
    · rw [List.dropWhile_cons_of_pos (by simpa using hlb)]
      exact ih
  | @comment body r hbody hr ih =>
    -- the two slashes and the body hold no line break, so the whole comment is dropped
    have hall : ('/' :: '/' :: body).dropWhile (fun c => !isLineBreak c) = [] := by
      rw [List.dropWhile_eq_nil_iff]
      intro x hx
      rcases List.mem_cons.mp hx with rfl | hx
      · rfl
      rcases List.mem_cons.mp hx with rfl | hx
      · rfl
      simpa [← isLineBreak_iff] using hbody x hx
    have hsplit : '/' :: '/' :: body ++ r = ('/' :: '/' :: body) ++ r := rfl
    rw [hsplit, List.dropWhile_append, hall, List.isEmpty_nil, if_pos rfl]
    exact ih

theorem not_tokenStart {R : List Char} (h : Trivia R) : ¬TokenStart R := by
  rintro ⟨c, r, rfl, hc, hslash⟩
  cases h with
  | blank hc' _ => exact hc hc'
  | comment => exact hslash ⟨rfl, rfl⟩

end Grammar.Trivia

theorem drop_takeWhile_length (p : Char → Bool) (R : List Char) :
    R.drop (R.takeWhile p).length = R.dropWhile p := by
  have hsplit : R.takeWhile p ++ R.dropWhile p = R := List.takeWhile_append_dropWhile
  calc R.drop (R.takeWhile p).length
      = (R.takeWhile p ++ R.dropWhile p).drop (R.takeWhile p).length := by rw [hsplit]
    _ = R.dropWhile p := List.drop_left

/-- The blank run that the stream skips on trivia leaves trivia. -/
theorem Grammar.Trivia.drop_blank {R : List Char} (h : Trivia R) :
    Trivia (R.drop (Extent.blank R)) := by
  rw [Extent.blank, drop_takeWhile_length]
  exact h.dropWhile_blank

/-- The comment that the stream skips on trivia, up to the next line break, leaves trivia. -/
theorem Grammar.Trivia.drop_comment {R : List Char} {n : Nat} (h : Trivia R)
    (hn : Extent.comment R = some n) : Trivia (R.drop n) := by
  match R, hn with
  | a :: b :: r, hn =>
    simp only [Extent.comment] at hn
    split at hn
    · next hab =>
      cases hn
      simp only [Bool.and_eq_true, isSlash, decide_eq_true_eq] at hab
      obtain ⟨rfl, rfl⟩ := hab
      rw [Nat.add_comm, List.drop_succ_cons, List.drop_succ_cons, drop_takeWhile_length]
      have hrest := h.dropWhile_not_lineBreak
      rwa [List.dropWhile_cons_of_pos (by rfl), List.dropWhile_cons_of_pos (by rfl)] at hrest
    · cases hn

/-- On trivia, the next token of the stream is none: the skips run to the end of the text. -/
theorem Lexer.nextToken_of_trivia {s : String} {lx : Lexer} (hrep : lx.cursor.Represents s)
    (h : Trivia lx.cursor.rest) :
    ∃ lx', lx.nextToken = .ok (lx', none) ∧ lx'.cursor.rest = [] := by
  -- one case per branch of the loop; after a skip, what is left is trivia again
  induction lx using nextToken.induct with
  | case1 lx hc hblank f hf =>
    obtain ⟨lx', h'⟩ := skipBlank_ok hrep hblank
    rw [h'] at hf
    cases hf
  | case2 lx hc hblank lx₁ h₁ ih =>
    have hrest := skipBlank_rest h₁
    obtain ⟨lx', hnext, hend⟩ :=
      ih (skipBlank_represents hrep h₁) (hrest ▸ h.drop_blank)
    exact ⟨lx', (nextToken_of_blank hc hblank h₁).trans hnext, hend⟩
  | case3 lx hc hblank hslash f hf =>
    obtain ⟨lx', h'⟩ := skipComment_ok hrep hslash
    rw [h'] at hf
    cases hf
  | case4 lx hc hblank hslash lx₁ h₁ ih =>
    obtain ⟨n, hn, -⟩ := Extent.comment_isSome hslash
    have hrest := skipComment_rest hn h₁
    obtain ⟨lx', hnext, hend⟩ :=
      ih (skipComment_represents hrep h₁) (hrest ▸ h.drop_comment hn)
    exact ⟨lx', (nextToken_of_comment hc hblank hslash h₁).trans hnext, hend⟩
  | case5 lx hc hblank hslash f hf =>
    exact absurd (tokenStart_rest hc hblank hslash) h.not_tokenStart
  | case6 lx hc hblank hslash lx₁ r hr =>
    exact absurd (tokenStart_rest hc hblank hslash) h.not_tokenStart
  | case7 lx hc =>
    refine ⟨lx, nextToken_of_end hc, ?_⟩
    rw [Cursor.has_iff, List.length_pos_iff, not_not] at hc
    exact hc

/-- A text lexes to no token exactly when it is trivia: blanks and line comments. On trivia the
first pull of the stream skips the whole text, in blank runs as long as they go and comments up
to the next line break, and finds its end; so a quote or two slashes inside a comment start
nothing. -/
theorem lex_eq_nil_iff_trivia (s : String) :
    (lex s = .ok (.ok []) ↔ Trivia s.toList) ∧
      (Trivia s.toList →
        ∃ lx, (Lexer.start s).nextToken = .ok (lx, none) ∧ lx.cursor.rest = []) := by
  have hskips : Trivia s.toList →
      ∃ lx, (Lexer.start s).nextToken = .ok (lx, none) ∧ lx.cursor.rest = [] :=
    fun h => nextToken_of_trivia (Cursor.represents_start s)
      (show Trivia (Lexer.start s).cursor.rest from h)
  refine ⟨⟨fun h => ?_, fun h => ?_⟩, hskips⟩
  · -- a pass with no token ends in trivia from the start
    cases lex_ok_yields h with
    | done htriv => simpa using htriv
  · obtain ⟨lx, hnext, -⟩ := hskips h
    have hend : (Lexer.start s).next = .ok (lx, none) := next_of_nextToken rfl hnext (by simp)
    show (Lexer.start s).collect [] = _
    rw [collect_of_end hend]
    rfl

example : lex "/// a // b\n// \"x\r\n" = .ok (.ok []) := by decide +kernel

end Lexis
