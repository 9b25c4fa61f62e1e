import Lexis.Proofs.Pass

/-!
The tokens of a text tile it. Offsets count characters. Before the first token, between two
tokens and after the last one there is only trivia; every token covers a non-empty span, the
spans come in source order without overlap, and the text of a token is the characters of its
span. Main statement: `lex_tiles`.
-/

namespace Lexis

open Grammar

/-- The tokens `ts` tile the characters of `s` from offset `pos` on: trivia up to the first
token, a token that holds the non-empty run of characters its span covers, and so on from the
end of that span, and trivia to the end of the text. -/
inductive Tiling (s : List Char) : Nat → List Token → Prop
  | tail {pos : Nat} : Trivia (s.drop pos) → Tiling s pos []
  | token {pos : Nat} {t : Token} {ts : List Token} : pos ≤ t.span.start →
      t.span.start < t.span.stop → t.span.stop ≤ s.length →
      Trivia ((s.drop pos).take (t.span.start - pos)) →
      t.text.toList = (s.drop t.span.start).take t.span.len →
      Tiling s t.span.stop ts → Tiling s pos (t :: ts)

namespace Tiling

variable {s : List Char}

theorem text_length {pos : Nat} {ts : List Token} (h : Tiling s pos ts) :
    ∀ t ∈ ts, t.text.length = t.span.len := by
  induction h with
  | tail => simp
  | @token pos t ts _ hlt hle _ htext _ ih =>
    intro u hu
    rcases List.mem_cons.mp hu with rfl | hu
    · rw [← String.length_toList, htext, List.length_take, List.length_drop, Span.len]
      omega
    · exact ih u hu

end Tiling

theorem Lexes.tiling {s : List Char} {a : Bool} {i : Nat} {ts : List Token} (h : Lexes s a i ts) :
    Tiling s i ts := by
  induction h with
  | done htriv => exact .tail htriv
  | @token a i j n k ts hij htriv hscan _ ih =>
    -- the scan reads at least one character and no more than are left: the span is non-empty
    -- and ends inside the text
    have hpos := Lexer.scan_pos hscan
    have hle := (Lexer.scan_spec hscan).2.1.le_length
    have hstop : j + n ≤ s.length := by
      rw [List.length_drop] at hle
      omega
    refine .token hij (by simp [Lexer.tokenAt]; omega) hstop htriv ?_ ih
    simp [Lexer.tokenAt, Span.len]

/-- The tokens that `lex` gives tile their text, and each holds as many characters as its span
covers. -/
theorem lex_tiles {s : String} {ts : List Token} (h : lex s = .ok (.ok ts)) :
    Tiling s.toList 0 ts ∧ ∀ t ∈ ts, t.text.length = t.span.len :=
  have htiles := (lex_lexes h).tiling
  ⟨htiles, htiles.text_length⟩

/-- Blanks, a comment and three tokens: the gaps and the comment at the end are trivia. -/
theorem lex_tiles_comparison :
    lex "x <= -1.5 // limit" = .ok (.ok [⟨.identifier, "x", ⟨0, 1, by decide⟩⟩,
        ⟨.operator, "<=", ⟨2, 4, by decide⟩⟩, ⟨.decimal, "-1.5", ⟨5, 9, by decide⟩⟩]) ∧
      Tiling "x <= -1.5 // limit".toList 0 [⟨.identifier, "x", ⟨0, 1, by decide⟩⟩,
        ⟨.operator, "<=", ⟨2, 4, by decide⟩⟩, ⟨.decimal, "-1.5", ⟨5, 9, by decide⟩⟩] :=
  have hlex : lex "x <= -1.5 // limit" = .ok (.ok [⟨.identifier, "x", ⟨0, 1, by decide⟩⟩,
      ⟨.operator, "<=", ⟨2, 4, by decide⟩⟩, ⟨.decimal, "-1.5", ⟨5, 9, by decide⟩⟩]) := by
    decide +kernel
  ⟨hlex, (lex_tiles hlex).1⟩

end Lexis
