import Lexis.Proofs.Coverage
import Lexis.Proofs.Classification

/-!
What a lexical error says. A pass over a text fails only in a character literal, in a string
literal, or at a backspace: every other character is a blank, opens a comment or a token, or is an
operator on its own, and the backspace is the one character that neither happens. Before the
failing token the text is tiled by the tokens the stream has yielded, and the error's offset lies
between the start of the failing token and the end of the text.

The string scanner never reports an invalid character, since every character is a plain body
character, the closing quote, a backslash or a line break (`Chars.isStringBody_or`). Main
statement: `lex_error_contract`.
-/

namespace Lexis

open Grammar Chars Lexer

/-- The lexical error `e` of a token that starts at offset `j` of `s`: a character literal fails
as invalid, unterminated or with a bad escape; a string literal as unterminated, with a line break
or with a bad escape; and a backspace fails where it stands. -/
inductive FailsAt (s : List Char) (j : Nat) : LexError → Prop
  | character {k : LexErrorKind} {m : Nat} : s[j]? = some '\'' →
      k = .invalidCharacterLiteral ∨ k = .unterminatedCharacterLiteral ∨ k = .invalidEscape →
      FailsAt s j ⟨k, m⟩
  | string {k : LexErrorKind} {m : Nat} : s[j]? = some '"' →
      k = .unterminatedStringLiteral ∨ k = .newlineInStringLiteral ∨ k = .invalidEscape →
      FailsAt s j ⟨k, m⟩
  | backspace : s[j]? = some '\x08' → FailsAt s j ⟨.unexpectedCharacter '\x08', j⟩

/-- A failing token never reports a missing string start or an invalid string character, and the
only character it reports as unexpected is the backspace. -/
theorem FailsAt.kind {s : List Char} {j : Nat} {e : LexError} (h : FailsAt s j e) :
    e.kind ≠ .expectedStringStart ∧ e.kind ≠ .invalidStringCharacter ∧
      ∀ c, e.kind = .unexpectedCharacter c → c = '\x08' := by
  cases h with
  | character _ hk => rcases hk with rfl | rfl | rfl <;> simp
  | string _ hk => rcases hk with rfl | rfl | rfl <;> simp
  | backspace => simp

namespace Chars

/-- Inside a string literal every character is a plain body character, the closing quote, the
backslash of an escape or a line break. -/
theorem isStringBody_or (c : Char) :
    isStringBody c = true ∨ isDoubleQuote c = true ∨ isBackslash c = true ∨
      isLineBreak c = true := by
  by_cases hq : c = '"'
  · exact .inr (.inl (by simp [isDoubleQuote, hq]))
  by_cases hb : c = '\\'
  · exact .inr (.inr (.inl (by simp [isBackslash, hb])))
  by_cases hl : c = '\n' ∨ c = '\r'
  · exact .inr (.inr (.inr (by simpa [isLineBreak] using hl)))
  · left
    simp only [not_or] at hl
    simp [isStringBody, hq, hb, hl.1, hl.2]

end Chars

/-! ### The errors of each scan -/

namespace Extent

theorem closeCharacter_error {n : Nat} {r : List Char} {k : LexErrorKind}
    (h : (closeCharacter n r).outcome = .error k) : k = .unterminatedCharacterLiteral := by
  cases r with
  | nil =>
    simp only [closeCharacter, Except.error.injEq] at h
    exact h.symm
  | cons c r =>
    simp only [closeCharacter] at h
    split at h
    · cases h
    · simp only [Except.error.injEq] at h
      exact h.symm

theorem characterBody_error {r : List Char} {k : LexErrorKind}
    (h : (characterBody r).outcome = .error k) :
    k = .invalidCharacterLiteral ∨ k = .unterminatedCharacterLiteral ∨ k = .invalidEscape := by
  match r with
  | [] =>
    simp only [characterBody, Except.error.injEq] at h
    exact .inl h.symm
  | c :: r =>
    by_cases hb : isBackslash c = true
    · cases r with
      | cons x r' =>
        by_cases hx : isEscapeLetter x = true
        · simp only [characterBody, hb, hx, if_true] at h
          exact .inr (.inl (closeCharacter_error h))
        · simp only [characterBody, hb, hx, if_true, Bool.false_eq_true, if_false,
            Except.error.injEq] at h
          exact .inr (.inr h.symm)
      | nil =>
        simp only [characterBody, hb, if_true, Except.error.injEq] at h
        exact .inr (.inr h.symm)
    · by_cases hp : isCharacterBody c = true
      · have hplain : characterBody (c :: r) = closeCharacter 1 r := by
          cases r <;> simp [characterBody, hb, hp]
        rw [hplain] at h
        exact .inr (.inl (closeCharacter_error h))
      · have hbad : characterBody (c :: r) = ⟨0, .error .invalidCharacterLiteral⟩ := by
          cases r <;> simp [characterBody, hb, hp]
        simp only [hbad, Except.error.injEq] at h
        exact .inl h.symm

theorem stringBody_error {r : List Char} {k : LexErrorKind}
    (h : (stringBody r).outcome = .error k) :
    k = .unterminatedStringLiteral ∨ k = .newlineInStringLiteral ∨ k = .invalidEscape := by
  induction r using stringBody.induct with
  | case1 c r hq => simp [stringBody_cons, hq] at h
  | case2 c hq hb x r hx ih =>
    simp only [stringBody_cons, hq, hb, hx, Bool.false_eq_true, if_false, if_true,
      after_outcome] at h
    exact ih h
  | case3 c hq hb x r hx =>
    simp only [stringBody_cons, hq, hb, hx, Bool.false_eq_true, if_false, if_true,
      Except.error.injEq] at h
    exact .inr (.inr h.symm)
  | case4 c hq hb =>
    simp only [stringBody_cons, hq, hb, Bool.false_eq_true, if_false, if_true,
      Except.error.injEq] at h
    exact .inr (.inr h.symm)
  | case5 c r hq hb hs ih =>
    simp only [stringBody_cons, hq, hb, hs, Bool.false_eq_true, if_false, if_true,
      after_outcome] at h
    exact ih h
  | case6 c r hq hb hs hl =>
    simp only [stringBody_cons, hq, hb, hs, hl, Bool.false_eq_true, if_false, if_true,
      Except.error.injEq] at h
    exact .inr (.inl h.symm)
  | case7 c r hq hb hs hl =>
    -- no character is left over by the four tests, so this branch is never taken
    rcases isStringBody_or c with h' | h' | h' | h' <;> simp_all
  | case8 =>
    simp only [stringBody, Except.error.injEq] at h
    exact .inl h.symm

theorem operator_error {cs : List Char} {n : Nat} {k : LexErrorKind}
    (h : operator cs = some ⟨n, .error k⟩) :
    ∃ c r, cs = c :: r ∧ isOperator c = false ∧ k = .unexpectedCharacter c ∧ n = 0 := by
  match cs, h with
  | c :: r, h =>
    simp only [operator] at h
    split at h
    · cases h
    · split at h
      · cases h
      · next ho =>
        simp only [Option.some.injEq, Extent.mk.injEq, Except.error.injEq] at h
        exact ⟨c, r, rfl, by simpa using ho, h.2.symm, h.1.symm⟩

end Extent

/-! ### Where a scan fails -/

namespace Lexer

/-- The class of a character that neither is skipped, nor opens a token of its own class, nor is
an operator on its own: the backspace. -/
theorem eq_backspace {a : Bool} {c : Char} {r : List Char} (hcls : classOf a (c :: r) = .operator)
    (hblank : ¬IsBlank c) (hop : isOperator c = false) : c = '\x08' := by
  obtain ⟨hident, hnum, hquote, hdquote⟩ := (classOf_operator_iff a c r).mp hcls
  have hchar : ¬IsOperatorChar c := fun h => by simp [(isOperator_iff c).mpr h] at hop
  simp only [IsOperatorChar, not_not] at hchar
  rcases hchar with hl | hd | hu | hq | hw | hsp | hb | hn | hr | ht
  · exact absurd (.inl hl) hident
  · exact absurd (.inl hd) hnum
  · exact absurd (.inr hu) hident
  · exact absurd hq hquote
  · exact absurd hw hdquote
  · exact absurd (.inl hsp) hblank
  · exact hb
  · exact absurd (.inr (.inr (.inl hn))) hblank
  · exact absurd (.inr (.inr (.inr (.inr (.inr hr))))) hblank
  · exact absurd (.inr (.inl ht)) hblank

/-- A scan that fails where a token may start is a character literal, a string literal or a
backspace, with the errors each of them can report. -/
theorem scan_error {a : Bool} {cs : List Char} {n : Nat} {k : LexErrorKind}
    (hstart : TokenStart cs) (h : scan a cs = some ⟨n, .error k⟩) :
    (cs.head? = some '\'' ∧
        (k = .invalidCharacterLiteral ∨ k = .unterminatedCharacterLiteral ∨ k = .invalidEscape)) ∨
      (cs.head? = some '"' ∧
        (k = .unterminatedStringLiteral ∨ k = .newlineInStringLiteral ∨ k = .invalidEscape)) ∨
      (cs.head? = some '\x08' ∧ k = .unexpectedCharacter '\x08' ∧ n = 0) := by
  obtain ⟨c, r, rfl, hblank, -⟩ := hstart
  unfold scan at h
  split at h
  · obtain ⟨m, -, he⟩ := Option.map_eq_some_iff.mp h
    cases he
  · obtain ⟨⟨m, k'⟩, -, he⟩ := Option.map_eq_some_iff.mp h
    cases he
  · next _ hc =>
    have hq : c = '\'' := (classOf_character_iff a c r).mp hc
    subst hq
    simp only [Extent.character, isSingleQuote, decide_true, if_true, Option.some.injEq] at h
    have hout : (Extent.characterBody r).outcome = .error k := by
      rw [← Extent.after_outcome 1, h]
    exact .inl ⟨rfl, Extent.characterBody_error hout⟩
  · next _ hc =>
    have hq : c = '"' := (classOf_string_iff a c r).mp hc
    subst hq
    simp only [Extent.string, isDoubleQuote, decide_true, if_true, Option.some.injEq] at h
    have hout : (Extent.stringBody r).outcome = .error k := by
      rw [← Extent.after_outcome 1, h]
    exact .inr (.inl ⟨rfl, Extent.stringBody_error hout⟩)
  · next _ hc =>
    obtain ⟨c', r', heq, hop, rfl, rfl⟩ := Extent.operator_error h
    obtain ⟨rfl, rfl⟩ := List.cons.inj heq
    have hback := eq_backspace hc hblank hop
    subst hback
    exact .inr (.inr ⟨rfl, rfl, rfl⟩)

theorem failsAt_of_scan {s : List Char} {a : Bool} {j n : Nat} {k : LexErrorKind}
    (hstart : TokenStart (s.drop j)) (h : scan a (s.drop j) = some ⟨n, .error k⟩) :
    FailsAt s j ⟨k, j + n⟩ := by
  rcases scan_error hstart h with ⟨hq, hk⟩ | ⟨hq, hk⟩ | ⟨hq, rfl, rfl⟩ <;>
    rw [List.head?_drop] at hq
  · exact .character hq hk
  · exact .string hq hk
  · exact .backspace hq

end Lexer

/-! ### The pass up to the failing token -/

theorem Tiling.stop_le {s : List Char} {pos : Nat} {ts : List Token} (h : Tiling s pos ts) :
    ∀ t ∈ ts, t.span.stop ≤ s.length := by
  induction h with
  | tail => simp
  | token _ _ hle _ _ _ ih =>
    intro u hu
    rcases List.mem_cons.mp hu with rfl | hu
    · exact hle
    · exact ih u hu

/-- A pass that ends with an error: up to where the failing token starts, the text is tiled by
the tokens yielded before it, and the error lies between that start and the end of the text. -/
theorem Yields.failure {s : List Char} {a : Bool} {i : Nat} {ts : List Token}
    {r : Option LexError} (h : Yields s a i ts r) {e : LexError} (hr : r = some e) :
    ∃ j, i ≤ j ∧ Tiling (s.take j) i ts ∧ j ≤ e.offset ∧ e.offset ≤ s.length ∧ FailsAt s j e := by
  induction h with
  | done => cases hr
  | @error a i j n k hij htriv hstart hscan =>
    cases hr
    have hle : n ≤ (s.drop j).length := scan_length_le hscan
    have hj := TokenStart.lt_length hstart
    rw [List.length_drop] at hle
    refine ⟨j, hij, .tail ?_, Nat.le_add_right j n, by simp only; omega,
      failsAt_of_scan hstart hscan⟩
    rw [List.drop_take]
    exact htriv
  | @token a i j n k ts r hij htriv hstart hscan _ ih =>
    obtain ⟨j', hj', htiles, hoff, hend, hfails⟩ := ih hr
    have hpos := scan_pos hscan
    have hle := (scan_spec hscan).2.1.le_length
    rw [List.length_drop] at hle
    -- the token lies before `j'`, so cutting the text there keeps its characters and the gap
    have hgap : ((s.take j').drop i).take (j - i) = (s.drop i).take (j - i) := by
      rw [List.drop_take, List.take_take, Nat.min_eq_left (by omega)]
    have htext : ((s.take j').drop j).take n = (s.drop j).take n := by
      rw [List.drop_take, List.take_take, Nat.min_eq_left (by omega)]
    refine ⟨j', by omega, .token hij (by simp [tokenAt]; omega) ?_ (by simpa [tokenAt, hgap] using htriv)
      (by simp [tokenAt, Span.len, htext]) htiles, hoff, hend, hfails⟩
    simp only [tokenAt, List.length_take]
    omega

/-- The error contract of `lex`. When `lex` fails with `e`, the stream pulled from the start of
the text yields some tokens and then `e`; those tokens tile the text up to where the failing token
starts, and so end before `e`; the error lies between that start and the end of the text; and the
failing token is a character literal, a string literal or a backspace, with the errors each can
report. In particular no pass fails for want of a string start or at an invalid string character,
and the backspace is the only unexpected character. -/
theorem lex_error_contract {s : String} {e : LexError} (h : lex s = .ok (.error e)) :
    ∃ ts j, (∀ n, (Lexer.start s).performAll (List.replicate n .next) =
        (streamItems ts (some e) n).map fun x => .ok (.item x)) ∧
      (∀ t ∈ ts, t.span.stop ≤ e.offset) ∧ Tiling (s.toList.take j) 0 ts ∧ j ≤ e.offset ∧
      e.offset ≤ s.length ∧ FailsAt s.toList j e ∧
      e.kind ≠ .expectedStringStart ∧ e.kind ≠ .invalidStringCharacter ∧
      ∀ c, e.kind = .unexpectedCharacter c → c = '\x08' := by
  obtain ⟨ts, hyields, hpulls⟩ := lex_error_yields h
  obtain ⟨j, -, htiles, hoff, hend, hfails⟩ := hyields.failure rfl
  have hstops : ∀ t ∈ ts, t.span.stop ≤ e.offset := fun t ht => by
    have hstop := htiles.stop_le t ht
    rw [List.length_take] at hstop
    omega
  rw [String.length_toList] at hend
  exact ⟨ts, j, hpulls, hstops, htiles, hoff, hend, hfails, hfails.kind⟩

/-- A backspace is the one character that no class of token accepts and no skip passes over. -/
theorem lex_error_contract_backspace :
    lex "x \x08" = .ok (.error ⟨.unexpectedCharacter '\x08', 2⟩) ∧
      ∃ ts j, (∀ n, (Lexer.start "x \x08").performAll (List.replicate n .next) =
          (streamItems ts (some ⟨.unexpectedCharacter '\x08', 2⟩) n).map fun x => .ok (.item x)) ∧
        (∀ t ∈ ts, t.span.stop ≤ 2) ∧ Tiling ("x \x08".toList.take j) 0 ts ∧ j ≤ 2 ∧
        2 ≤ "x \x08".length ∧ FailsAt "x \x08".toList j ⟨.unexpectedCharacter '\x08', 2⟩ ∧
        LexErrorKind.unexpectedCharacter '\x08' ≠ .expectedStringStart ∧
        LexErrorKind.unexpectedCharacter '\x08' ≠ .invalidStringCharacter ∧
        ∀ c, LexErrorKind.unexpectedCharacter '\x08' = .unexpectedCharacter c → c = '\x08' :=
  have hlex : lex "x \x08" = .ok (.error ⟨.unexpectedCharacter '\x08', 2⟩) := by decide +kernel
  ⟨hlex, lex_error_contract hlex⟩

end Lexis
