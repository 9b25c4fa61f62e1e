import Mathlib
import Lexis.Cursor

/-!
Byte offsets of character offsets. A text is stored as its UTF-8 encoding, so the byte offset
of the `k`-th character is the encoded length of the `k` characters before it. Cutting a text
between two such byte offsets gives back exactly the characters between the two character
offsets; this is what lets a cursor slice its source by bytes while it reports spans in
characters.
-/

namespace Lexis

def utf8Length (cs : List Char) : Nat := (String.ofList cs).utf8ByteSize

@[simp] theorem utf8Length_nil : utf8Length [] = 0 := rfl

@[simp] theorem utf8Length_cons (x : Char) (cs : List Char) :
    utf8Length (x :: cs) = x.utf8Size + utf8Length cs := by
  simp [utf8Length, String.utf8ByteSize_singleton]

theorem utf8Length_append (l₁ l₂ : List Char) :
    utf8Length (l₁ ++ l₂) = utf8Length l₁ + utf8Length l₂ := by
  simp [utf8Length, String.ofList_append]

theorem utf8Length_toList (s : String) : utf8Length s.toList = s.utf8ByteSize := by
  simp [utf8Length, String.ofList_toList]

theorem utf8Length_take_succ {cs : List Char} {k : Nat} {x : Char} {xs : List Char}
    (h : cs.drop k = x :: xs) :
    utf8Length (cs.take (k + 1)) = utf8Length (cs.take k) + x.utf8Size := by
  have hsplit : cs.take (k + 1) = cs.take k ++ [x] := by
    rw [List.take_add, h]
    rfl
  rw [hsplit, utf8Length_append]
  simp

theorem utf8Length_take_split (cs : List Char) {a b : Nat} (hab : a ≤ b) :
    utf8Length (cs.take b) = utf8Length (cs.take a) + utf8Length ((cs.drop a).take (b - a)) := by
  obtain ⟨d, rfl⟩ : ∃ d, b = a + d := ⟨b - a, by omega⟩
  rw [Nat.add_sub_cancel_left, List.take_add, utf8Length_append]

/-- Every character takes at least one byte, so byte offsets grow strictly with character
offsets inside the text. -/
theorem utf8Length_take_lt (cs : List Char) {a b : Nat} (hab : a < b) (hb : b ≤ cs.length) :
    utf8Length (cs.take a) < utf8Length (cs.take b) := by
  induction cs generalizing a b with
  | nil => simp at hb; omega
  | cons x xs ih =>
    cases b with
    | zero => omega
    | succ b =>
      cases a with
      | zero =>
        have hpos := x.utf8Size_pos
        simp
        omega
      | succ a => simpa using @ih a b (by omega) (by simp at hb; omega)

/-! ### Cutting a text between byte offsets -/

section Extract

open String.Pos.Raw

theorem extract_go₂_take (cs : List Char) (i n : Nat) :
    extract.go₂ cs ⟨i⟩ ⟨i + utf8Length (cs.take n)⟩ = cs.take n := by
  induction cs generalizing i n with
  | nil => simp [extract.go₂]
  | cons x xs ih =>
    cases n with
    | zero => simp [extract.go₂]
    | succ n =>
      have hpos := x.utf8Size_pos
      have hne : (⟨i⟩ : String.Pos.Raw) ≠ ⟨i + utf8Length ((x :: xs).take (n + 1))⟩ := by
        simp
        omega
      rw [extract.go₂, if_neg hne]
      have step := ih (i + x.utf8Size) n
      simp only [List.take_succ_cons, utf8Length_cons] at step ⊢
      rw [← Nat.add_assoc]
      congr

theorem extract_go₁_drop (cs : List Char) (i a : Nat) (e : String.Pos.Raw) (ha : a ≤ cs.length) :
    extract.go₁ cs ⟨i⟩ ⟨i + utf8Length (cs.take a)⟩ e =
      extract.go₂ (cs.drop a) ⟨i + utf8Length (cs.take a)⟩ e := by
  induction cs generalizing i a with
  | nil => simp [extract.go₁, extract.go₂]
  | cons x xs ih =>
    cases a with
    | zero => simp [extract.go₁]
    | succ a =>
      have hpos := x.utf8Size_pos
      have hne : (⟨i⟩ : String.Pos.Raw) ≠ ⟨i + utf8Length ((x :: xs).take (a + 1))⟩ := by
        simp
        omega
      rw [extract.go₁, if_neg hne]
      have step := ih (i + x.utf8Size) a (by simp at ha; omega)
      simp only [List.take_succ_cons, utf8Length_cons, List.drop_succ_cons] at step ⊢
      rw [← Nat.add_assoc]
      exact step

/-- Cutting a text between the byte offsets of two character offsets `a ≤ b` gives the
characters from `a` up to `b`. -/
theorem extract_utf8Length_take (s : String) {a b : Nat} (hab : a ≤ b) (hb : b ≤ s.length) :
    extract s ⟨utf8Length (s.toList.take a)⟩ ⟨utf8Length (s.toList.take b)⟩ =
      String.ofList ((s.toList.drop a).take (b - a)) := by
  rw [extract]
  split
  · next hge =>
    rcases Nat.lt_or_ge a b with hlt | hba
    · have := utf8Length_take_lt s.toList hlt (by rw [String.length_toList]; exact hb)
      simp at hge
      omega
    · have hsame : b - a = 0 := by omega
      simp [hsame]
  · have skip := extract_go₁_drop s.toList 0 a ⟨utf8Length (s.toList.take b)⟩
      (by rw [String.length_toList]; omega)
    simp only [Nat.zero_add] at skip
    rw [show (0 : String.Pos.Raw) = ⟨0⟩ from rfl, skip, utf8Length_take_split s.toList hab,
      extract_go₂_take]

theorem extract_utf8Length_take_end (s : String) {a : Nat} (ha : a ≤ s.length) :
    extract s ⟨utf8Length (s.toList.take a)⟩ s.rawEndPos = String.ofList (s.toList.drop a) := by
  have hend : s.rawEndPos = ⟨utf8Length (s.toList.take s.length)⟩ := by
    rw [← String.length_toList, List.take_length, utf8Length_toList]
    rfl
  rw [hend, extract_utf8Length_take s ha (Nat.le_refl _)]
  congr
  apply List.take_of_length_le
  simp [String.length_toList]

end Extract

end Lexis
