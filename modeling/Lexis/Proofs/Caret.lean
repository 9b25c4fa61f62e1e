import Lexis.Report
import Lexis.Proofs.LineTable

/-!
The report of a lexical error points at the error. The line and column of the error's offset
always name a line of the source, so the report always shows that line, in a gutter as wide as
the line number has decimal digits, with a caret under the column; and where the offset names a
character that does not end its line, the caret stands under that very character. Main statement:
`report_points_at`.
-/

namespace Lexis

open LineIndex

/-- The character at offset `n` ends its line: a line feed, or a carriage return right before a
line feed or at the end of the text. -/
def EndsLine (cs : List Char) (n : Nat) : Prop :=
  cs[n]? = some '\n' ∨ (cs[n]? = some '\r' ∧ (cs[n + 1]? = some '\n' ∨ n + 1 = cs.length))

/-- A positive number is written with one character per decimal digit. -/
theorem length_toString_eq_digits {L : Nat} (hL : 0 < L) :
    (toString L).length = (Nat.digits 10 L).length := by
  have hrepr : (toString L).length = (Nat.toDigits 10 L).length := by
    rw [← String.length_toList, Nat.toString_eq_repr, Nat.toList_repr]
  have hpos : 0 < (Nat.digits 10 L).length :=
    List.length_pos_iff.mpr (Nat.digits_ne_nil_iff_ne_zero.mpr (Nat.pos_iff_ne_zero.mp hL))
  rw [hrepr]
  apply Nat.le_antisymm
  · exact (Nat.length_toDigits_le_iff (by decide) hpos).mpr
      ((Nat.digits_length_le_iff (by decide) L).mp (Nat.le_refl _))
  · exact (Nat.digits_length_le_iff (by decide) L).mpr
      ((Nat.length_toDigits_le_iff (by decide) Nat.length_toDigits_pos).mp (Nat.le_refl _))

/-- Dropping a carriage return at the end keeps every character but a last carriage return. -/
theorem getElem?_dropCarriageReturn {cs : List Char} {i : Nat} {x : Char} (hx : cs[i]? = some x)
    (hlast : i + 1 = cs.length → x ≠ '\r') : (dropCarriageReturn cs)[i]? = some x := by
  have hi : i < cs.length := (List.getElem?_eq_some_iff.mp hx).1
  unfold dropCarriageReturn
  split
  · next hcr =>
    rcases Nat.lt_or_eq_of_le (show i + 1 ≤ cs.length from hi) with hlt | heq
    · rw [List.getElem?_dropLast, if_pos (by omega), hx]
    · -- the last character is `x`, and it is the carriage return that is dropped
      rw [List.getLast?_eq_getElem?, ← heq, Nat.add_sub_cancel, hx] at hcr
      exact absurd (Option.some.inj hcr) (hlast heq)
  · exact hx

/-- A line runs past every offset after its start up to which no line feed stands. -/
theorem LineRange.lt_stop {src : List Char} {U : List (Nat × Nat)} {ps : List (List Char)}
    {k c e n : Nat} (h : LineRange src U ps k c e) (hcn : c ≤ n) (hn : n < src.length)
    (hnone : ∀ j, c ≤ j → j < n → src[j]? ≠ some '\n') (hlf : src[n]? ≠ some '\n') : n < e := by
  rcases h.ends with hee | hfeed
  · omega
  · refine Nat.lt_of_not_le fun hen => ?_
    rcases Nat.lt_or_eq_of_le hen with hlt | rfl
    · exact hnone e h.le hlt hfeed
    · exact hlf hfeed

/-- Where an offset `n` after the start `c` of a line, with no line feed between, names a
character that does not end its line, the text of the line holds that character `n - c` places
from its start. -/
theorem LineRange.getElem?_line {src : List Char} {U : List (Nat × Nat)} {ps : List (List Char)}
    {k c e n : Nat} (h : LineRange src U ps k c e) (hcn : c ≤ n) (hn : n < src.length)
    (hnone : ∀ j, c ≤ j → j < n → src[j]? ≠ some '\n') (hend : ¬EndsLine src n) :
    (dropCarriageReturn ((src.drop c).take (e - c)))[n - c]? = src[n]? := by
  obtain ⟨x, hx⟩ : ∃ x, src[n]? = some x := ⟨_, List.getElem?_eq_getElem hn⟩
  have hne : n < e := h.lt_stop hcn hn hnone fun hlf => hend (.inl hlf)
  have hpiece : ((src.drop c).take (e - c))[n - c]? = some x := by
    rw [List.getElem?_take, if_pos (by omega), List.getElem?_drop, Nat.add_sub_cancel' hcn, hx]
  rw [getElem?_dropCarriageReturn hpiece, hx]
  -- a carriage return that ends the line stands before a line feed or at the end of the text
  intro hlast hcr
  have hlen : ((src.drop c).take (e - c)).length = e - c := by
    rw [List.length_take, List.length_drop]
    have := h.le_length
    omega
  rw [hlen] at hlast
  have hsucc : n + 1 = e := by omega
  rcases h.ends with hee | hlf
  · exact hend (.inr ⟨hcr ▸ hx, .inr (by omega)⟩)
  · exact hend (.inr ⟨hcr ▸ hx, .inl (hsucc ▸ hlf)⟩)

/-- The report of a lexical error at offset `n`: its message with the line `L` and column `C` of
`n`, then the line `L` of the source in a gutter as wide as `L` has decimal digits, and a caret
after `C - 1` blanks. The line always exists, so the excerpt is never left out; and where `n`
names a character that does not end its line, the caret stands under that very character. -/
theorem report_points_at (e : LexError) (s : String) :
    ∃ L C text, (ofString s).lineCol e.offset = (L, C) ∧ (ofString s).line? L = some text ∧
      e.report s = e.message ++ " (line " ++ toString L ++ ", column " ++ toString C ++ ")" ++
        "\n" ++ blanks (Nat.digits 10 L).length ++ " |\n" ++ toString L ++ " | " ++ text ++
        "\n" ++ blanks (Nat.digits 10 L).length ++ " | " ++ blanks (C - 1) ++ "^" ∧
      (e.offset < s.length → ¬EndsLine s.toList e.offset →
        text.toList[C - 1]? = s.toList[e.offset]?) := by
  obtain ⟨m, c, stop, hlc, hcn, hnone, hrange⟩ := lineCol_lineRange s e.offset
  refine ⟨m + 1, e.offset - c + 1, _, hlc, hrange.line?_eq, ?_, fun hn hend => ?_⟩
  · unfold LexError.report LexError.render
    simp only [hlc, hrange.line?_eq]
    rw [length_toString_eq_digits (Nat.succ_pos m)]
    simp only [caretAt, String.append_assoc]
  · -- the column is one more than the distance from the start of the line
    rw [Nat.add_sub_cancel, String.toList_ofList]
    exact hrange.getElem?_line hcn (by rw [String.length_toList]; exact hn) hnone hend

end Lexis
