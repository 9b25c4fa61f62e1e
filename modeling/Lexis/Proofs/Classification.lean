import Lexis.Proofs.Pass

/-!
How the tokens of a text are classified and how far each one reaches, said of the text alone.
The first character ahead decides the class: a letter or an underscore starts an identifier, a
digit a number, a quote a character literal, a double quote a string literal, and a sign that a
digit follows starts a number where a sign may start one, at the start of the text or after an
operator other than a closing bracket; anything else is an operator. The token then holds the
longest prefix of the text ahead in the language of its class. Main statement:
`lex_tokens_classified`.
-/

namespace Lexis

open Grammar Chars

/-- A digit, or a sign and then a digit where a sign may start a number. -/
def NumberStart (signed : Prop) (c : Char) (r : List Char) : Prop :=
  IsDigit c ∨ (IsSign c ∧ (∃ d, r.head? = some d ∧ IsDigit d) ∧ signed)

/-- The kind `k` of a token is the one that the first characters of the text `R` ahead of it call
for, where `signed` says whether a sign there may start a number. -/
def KindByLookahead (signed : Prop) (R : List Char) (k : TokenKind) : Prop :=
  ∃ c r, R = c :: r ∧
    (k = .identifier ↔ IsLetter c ∨ c = '_') ∧
    ((k = .integer ∨ k = .decimal) ↔ NumberStart signed c r) ∧
    (k = .character ↔ c = '\'') ∧
    (k = .string ↔ c = '"') ∧
    (k = .operator ↔ ¬(IsLetter c ∨ c = '_') ∧ ¬NumberStart signed c r ∧ c ≠ '\'' ∧ c ≠ '"')

/-- The token `t` holds the longest prefix of the text `R` ahead of it in the language of its
class, and a number is decimal exactly when it has a point or an exponent mark. -/
def MaximalMunch (R : List Char) (t : Token) : Prop :=
  LongestPrefix t.kind.Language R t.span.len ∧ t.text.toList = R.take t.span.len ∧
    ((t.kind = .integer ∨ t.kind = .decimal) →
      (t.kind = .decimal ↔ ∃ x ∈ t.text.toList, x = '.' ∨ x = 'e' ∨ x = 'E'))

/-- A sign may start the token at position `i` of `ts`: it is the first token, or an operator
other than a closing bracket comes before it. -/
def SignMayStart (ts : List Token) (i : Nat) : Prop :=
  i = 0 ∨ ∃ p, ts[i - 1]? = some p ∧ p.kind = .operator ∧ p.text ≠ ")" ∧ p.text ≠ "]" ∧
    p.text ≠ "\x7d"

/-! ### The class from the first characters -/

namespace Lexer

theorem startsWithAll_digit_iff (r : List Char) :
    startsWithAll [isDigit] r = true ↔ ∃ d, r.head? = some d ∧ IsDigit d := by
  cases r with
  | nil => simp [startsWithAll]
  | cons d r => simp [startsWithAll, isDigit_iff]

theorem classOf_cons (a : Bool) (c : Char) (r : List Char) :
    classOf a (c :: r) =
      if isIdentStart c then .identifier
      else if isDigit c || (!a && (isSign c && startsWithAll [isDigit] r)) then .number
      else if isSingleQuote c then .character
      else if isDoubleQuote c then .string
      else .operator := by
  simp [classOf, startsWithAll]

theorem numberStart_iff (a : Bool) (c : Char) (r : List Char) :
    (isDigit c || (!a && (isSign c && startsWithAll [isDigit] r))) = true ↔
      NumberStart (a = false) c r := by
  simp only [NumberStart, Bool.or_eq_true, Bool.and_eq_true, Bool.not_eq_true', isDigit_iff,
    isSign_iff, startsWithAll_digit_iff]
  constructor
  · rintro (h | ⟨ha, hs, hd⟩)
    · exact .inl h
    · exact .inr ⟨hs, hd, ha⟩
  · rintro (h | ⟨hs, hd, ha⟩)
    · exact .inl h
    · exact .inr ⟨ha, hs, hd⟩

theorem not_identStart_of_numberStart {signed : Prop} {c : Char} {r : List Char}
    (h : NumberStart signed c r) : ¬(IsLetter c ∨ c = '_') := by
  rintro (hl | rfl)
  · rcases h with hd | ⟨hs, -, -⟩
    · exact not_isDigit_of_isLetter hl hd
    · rcases hs with rfl | rfl <;> revert hl <;> unfold IsLetter <;> decide
  · rcases h with hd | ⟨hs, -, -⟩
    · revert hd; unfold IsDigit; decide
    · revert hs; unfold IsSign; decide

theorem not_start_of_quote {signed : Prop} {c : Char} {r : List Char} (h : c = '\'' ∨ c = '"') :
    ¬(IsLetter c ∨ c = '_') ∧ ¬NumberStart signed c r := by
  rcases h with rfl | rfl <;>
    refine ⟨by unfold IsLetter; decide, ?_⟩ <;>
    rintro (hd | ⟨hs, -, -⟩) <;>
    first | (revert hd; unfold IsDigit; decide) | (revert hs; unfold IsSign; decide)

theorem tokenClass_eq_number {k : TokenKind} :
    tokenClass k = .number ↔ k = .integer ∨ k = .decimal := by
  cases k <;> simp [tokenClass]

/-! Each class is chosen exactly when its test on the first characters holds; the tests are tried
in order, and each excludes the ones before it. -/

section Classes

variable (a : Bool) (c : Char) (r : List Char)

theorem classOf_identifier_iff : classOf a (c :: r) = .identifier ↔ IsLetter c ∨ c = '_' := by
  rw [classOf_cons]
  split_ifs with hI
  · exact iff_of_true rfl ((isIdentStart_iff c).mp hI)
  all_goals exact iff_of_false nofun fun h => hI ((isIdentStart_iff c).mpr h)

theorem classOf_number_iff : classOf a (c :: r) = .number ↔ NumberStart (a = false) c r := by
  rw [classOf_cons]
  split_ifs with hI hN
  · exact iff_of_false nofun fun hn =>
      not_identStart_of_numberStart hn ((isIdentStart_iff c).mp hI)
  · exact iff_of_true rfl ((numberStart_iff a c r).mp hN)
  all_goals exact iff_of_false nofun fun hn => hN ((numberStart_iff a c r).mpr hn)

theorem classOf_character_iff : classOf a (c :: r) = .character ↔ c = '\'' := by
  rw [classOf_cons]
  split_ifs with hI hN hQ
  · exact iff_of_false nofun fun hq =>
      (@not_start_of_quote (a = false) c r (.inl hq)).1 ((isIdentStart_iff c).mp hI)
  · exact iff_of_false nofun fun hq =>
      (not_start_of_quote (.inl hq)).2 ((numberStart_iff a c r).mp hN)
  · exact iff_of_true rfl (by simpa [isSingleQuote] using hQ)
  all_goals exact iff_of_false nofun fun hq => hQ (by simp [isSingleQuote, hq])

theorem classOf_string_iff : classOf a (c :: r) = .string ↔ c = '"' := by
  rw [classOf_cons]
  split_ifs with hI hN hQ hW
  · exact iff_of_false nofun fun hw =>
      (@not_start_of_quote (a = false) c r (.inr hw)).1 ((isIdentStart_iff c).mp hI)
  · exact iff_of_false nofun fun hw =>
      (not_start_of_quote (.inr hw)).2 ((numberStart_iff a c r).mp hN)
  · exact iff_of_false nofun fun hw => by simp [isSingleQuote, hw] at hQ
  · exact iff_of_true rfl (by simpa [isDoubleQuote] using hW)
  · exact iff_of_false nofun fun hw => hW (by simp [isDoubleQuote, hw])

theorem classOf_operator_iff :
    classOf a (c :: r) = .operator ↔
      ¬(IsLetter c ∨ c = '_') ∧ ¬NumberStart (a = false) c r ∧ c ≠ '\'' ∧ c ≠ '"' := by
  rw [classOf_cons]
  split_ifs with hI hN hQ hW
  · exact iff_of_false nofun fun h => h.1 ((isIdentStart_iff c).mp hI)
  · exact iff_of_false nofun fun h => h.2.1 ((numberStart_iff a c r).mp hN)
  · exact iff_of_false nofun fun h => h.2.2.1 (by simpa [isSingleQuote] using hQ)
  · exact iff_of_false nofun fun h => h.2.2.2 (by simpa [isDoubleQuote] using hW)
  · refine iff_of_true rfl ⟨fun h => hI ((isIdentStart_iff c).mpr h),
      fun h => hN ((numberStart_iff a c r).mpr h), fun h => hQ ?_, fun h => hW ?_⟩
    · simp [isSingleQuote, h]
    · simp [isDoubleQuote, h]

end Classes

theorem kindByLookahead_of_class {a : Bool} {c : Char} {r : List Char} {k : TokenKind}
    (hk : tokenClass k = classOf a (c :: r)) : KindByLookahead (a = false) (c :: r) k := by
  refine ⟨c, r, rfl, ?_, ?_, ?_, ?_, ?_⟩
  · rw [← classOf_identifier_iff a c r, ← hk]
    cases k <;> simp [tokenClass]
  · rw [← classOf_number_iff a c r, ← hk]
    cases k <;> simp [tokenClass]
  · rw [← classOf_character_iff a c r, ← hk]
    cases k <;> simp [tokenClass]
  · rw [← classOf_string_iff a c r, ← hk]
    cases k <;> simp [tokenClass]
  · rw [← classOf_operator_iff a c r, ← hk]
    cases k <;> simp [tokenClass]

theorem kindByLookahead_of_scan {a : Bool} {signed : Prop} {R : List Char} {n : Nat}
    {k : TokenKind} (h : scan a R = some ⟨n, .ok k⟩) (hsigned : a = false ↔ signed) :
    KindByLookahead signed R k := by
  obtain ⟨hcls, hlong, -⟩ := scan_spec h
  -- a scan that completes reads at least one character, so the text ahead has a first one
  have hne : R ≠ [] := fun hnil => by
    have hpos := scan_pos h
    have hle := hlong.le_length
    rw [hnil, List.length_nil] at hle
    omega
  obtain ⟨c, r, rfl⟩ := List.exists_cons_of_ne_nil hne
  rw [show signed = (a = false) from propext hsigned.symm]
  exact kindByLookahead_of_class hcls

theorem maximalMunch_of_scan {a : Bool} {R : List Char} {t : Token}
    (h : scan a R = some ⟨t.span.len, .ok t.kind⟩) (htext : t.text.toList = R.take t.span.len) :
    MaximalMunch R t := by
  obtain ⟨-, hlong, hdec⟩ := scan_spec h
  refine ⟨hlong, htext, fun hnum => ?_⟩
  rw [htext]
  exact hdec (tokenClass_eq_number.mpr hnum)

end Lexer

/-! ### The flag before each token -/

/-- Whether an operand comes before the token at position `m` of `ts`, when one comes before the
first as `a` says. -/
def afterOperandAt (a : Bool) : List Token → Nat → Bool
  | _, 0 => a
  | t :: ts, m + 1 => afterOperandAt t.endsOperand ts m
  | [], _ + 1 => a

theorem afterOperandAt_succ (a : Bool) {ts : List Token} {m : Nat} (hm : m < ts.length) :
    afterOperandAt a ts (m + 1) = ts[m].endsOperand := by
  induction ts generalizing a m with
  | nil => simp at hm
  | cons t ts ih =>
    cases m with
    | zero => simp [afterOperandAt]
    | succ m => exact ih t.endsOperand (by simpa using hm)

theorem endsOperand_eq_false_iff (t : Token) :
    t.endsOperand = false ↔
      t.kind = .operator ∧ t.text ≠ ")" ∧ t.text ≠ "]" ∧ t.text ≠ "\x7d" := by
  simp [Token.endsOperand, and_assoc]

theorem afterOperandAt_false_iff {ts : List Token} {i : Nat} (hi : i < ts.length) :
    afterOperandAt false ts i = false ↔ SignMayStart ts i := by
  cases i with
  | zero => exact iff_of_true (by simp [afterOperandAt]) (.inl rfl)
  | succ i =>
    rw [afterOperandAt_succ false (by omega), endsOperand_eq_false_iff]
    constructor
    · intro h
      exact .inr ⟨ts[i], by simp, h⟩
    · rintro (h | ⟨p, hp, h⟩)
      · cases h
      · rw [Nat.add_sub_cancel, List.getElem?_eq_getElem (by omega), Option.some.injEq] at hp
        rw [hp]
        exact h

theorem Lexes.scan_at {s : List Char} {a : Bool} {i : Nat} {ts : List Token}
    (h : Lexes s a i ts) (m : Nat) (hm : m < ts.length) :
    Lexer.scan (afterOperandAt a ts m) (s.drop ts[m].span.start) =
        some ⟨ts[m].span.len, .ok ts[m].kind⟩ ∧
      ts[m].text.toList = (s.drop ts[m].span.start).take ts[m].span.len := by
  induction h generalizing m with
  | done => simp at hm
  | @token a i j n k ts hij htriv hscan _ ih =>
    cases m with
    | zero =>
      simpa [afterOperandAt, Lexer.tokenAt, Span.len] using hscan
    -- the flag before the next token is the one this token leaves, as the step of Lexes says
    | succ m => simpa [afterOperandAt] using ih m (by simpa using hm)

/-- The tokens that `lex` gives are classified by their first characters, a sign starting a
number only where no operand comes before it, and each holds the longest prefix of the text ahead
in the language of its class. -/
theorem lex_tokens_classified {s : String} {ts : List Token} (h : lex s = .ok (.ok ts)) (i : Nat)
    (hi : i < ts.length) :
    KindByLookahead (SignMayStart ts i) (s.toList.drop ts[i].span.start) ts[i].kind ∧
      MaximalMunch (s.toList.drop ts[i].span.start) ts[i] := by
  obtain ⟨hscan, htext⟩ := (lex_lexes h).scan_at i hi
  exact ⟨Lexer.kindByLookahead_of_scan hscan (afterOperandAt_false_iff hi),
    Lexer.maximalMunch_of_scan hscan htext⟩

/-- After an operator the sign of `-1.5e3` starts a number, which reads up to its exponent. -/
theorem lex_tokens_classified_signed :
    lex "x = -1.5e3" = .ok (.ok [⟨.identifier, "x", ⟨0, 1, by decide⟩⟩,
        ⟨.operator, "=", ⟨2, 3, by decide⟩⟩, ⟨.decimal, "-1.5e3", ⟨4, 10, by decide⟩⟩]) ∧
      KindByLookahead (SignMayStart [⟨.identifier, "x", ⟨0, 1, by decide⟩⟩,
          ⟨.operator, "=", ⟨2, 3, by decide⟩⟩, ⟨.decimal, "-1.5e3", ⟨4, 10, by decide⟩⟩] 2)
        ("x = -1.5e3".toList.drop 4) .decimal ∧
      MaximalMunch ("x = -1.5e3".toList.drop 4) ⟨.decimal, "-1.5e3", ⟨4, 10, by decide⟩⟩ :=
  have hlex : lex "x = -1.5e3" = .ok (.ok [⟨.identifier, "x", ⟨0, 1, by decide⟩⟩,
      ⟨.operator, "=", ⟨2, 3, by decide⟩⟩, ⟨.decimal, "-1.5e3", ⟨4, 10, by decide⟩⟩]) := by
    decide +kernel
  ⟨hlex, lex_tokens_classified hlex 2 (by decide)⟩

end Lexis
