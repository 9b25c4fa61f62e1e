import Lexis.Lexer.Calls
import Lexis.Proofs.CursorOffsets

/-!
The token stream never meets a fault. Every scanner that the stream calls is entered at a
character its class can start with, an operator is scanned only while a character is left, and
every emit follows at least one consumed character. An emit also cuts its text out of the source
between two byte offsets and counts its span back from the index; both are well formed as long
as the cursor is in step with its text (`Cursor.Represents`), which holds at the start and which
every step of the stream keeps. So the stream meets no fault from any lexer whose cursor is in
step with its text, also from one where an error has left consumed characters pending.

Scanning a token is finishing the extent that the scanner of its class reads (`Lexer.scan`,
`Lexer.lexToken_eq_finish`); the proofs about the characters of a token start from there too.

Main statement: `Lexer.stream_never_faults`.
-/

namespace Lexis

namespace Cursor

theorem bump_pending_of_ne_nil {c : Cursor} (hr : c.rest ≠ []) :
    c.bump.pending = c.pending + 1 := by
  obtain ⟨x, xs, hx⟩ := List.exists_cons_of_ne_nil hr
  simp [bump_of_rest_cons hx]

theorem pending_le_bump (c : Cursor) : c.pending ≤ c.bump.pending := by
  cases hr : c.rest with
  | nil => simp [bump_of_rest_nil hr]
  | cons x xs => simp [bump_of_rest_cons hr]

theorem pending_le_advance (k : Nat) (c : Cursor) : c.pending ≤ (c.advance k).pending := by
  induction k generalizing c with
  | zero => exact Nat.le_refl _
  | succ k ih => exact Nat.le_trans (pending_le_bump c) (ih c.bump)

theorem advance_pending_pos {c : Cursor} {k : Nat} (hk : 0 < k) (hr : c.rest ≠ []) :
    0 < (c.advance k).pending := by
  obtain ⟨j, rfl⟩ : ∃ j, k = j + 1 := ⟨k - 1, by omega⟩
  have first := bump_pending_of_ne_nil hr
  have later := pending_le_advance j c.bump
  simp only [advance]
  omega

theorem emit_ok {s : String} {c : Cursor} (h : c.Represents s) (hp : 0 < c.pending) :
    ∃ l c', c.emit = .ok (l, c') ∧ c'.Represents s := by
  obtain ⟨he, hrep⟩ := h.emit (Nat.pos_iff_ne_zero.mp hp)
  exact ⟨_, _, he, hrep⟩

end Cursor

namespace Chars

theorem isSign_eq_false_of_isDigit {c : Char} (h : isDigit c = true) : isSign c = false := by
  cases hs : isSign c with
  | false => rfl
  | true =>
    simp only [isSign, Bool.or_eq_true, decide_eq_true_eq] at hs
    rcases hs with rfl | rfl <;> revert h <;> decide

end Chars

namespace Extent

open Chars

theorem blank_pos {cs : List Char} (h : startsWithAll [isBlank] cs = true) : 0 < blank cs := by
  cases cs with
  | nil => simp [startsWithAll] at h
  | cons x xs =>
    simp only [startsWithAll, Bool.and_true] at h
    simp [blank, h]

theorem comment_isSome {cs : List Char} (h : startsWithAll [isSlash, isSlash] cs = true) :
    ∃ n, comment cs = some n ∧ 0 < n := by
  cases cs with
  | nil => simp [startsWithAll] at h
  | cons a r =>
    cases r with
    | nil => simp [startsWithAll] at h
    | cons b r =>
      simp only [startsWithAll, Bool.and_true] at h
      exact ⟨2 + (r.takeWhile fun c => !isLineBreak c).length, by simp [comment, h], by omega⟩

theorem identifier_isSome {cs : List Char} (h : startsWithAll [isIdentStart] cs = true) :
    ∃ n, identifier cs = some n := by
  cases cs with
  | nil => simp [startsWithAll] at h
  | cons c r =>
    simp only [startsWithAll, Bool.and_true] at h
    exact ⟨1 + (r.takeWhile isIdentContinue).length, by simp [identifier, h]⟩

theorem number_isSome {cs : List Char}
    (h : startsWithAll [isDigit] cs = true ∨ startsWithAll [isSign, isDigit] cs = true) :
    ∃ n k, number cs = some (n, k) := by
  have digits : 0 < digitRun (cs.drop (sign cs)) := by
    rcases h with h | h
    · cases cs with
      | nil => simp [startsWithAll] at h
      | cons d r =>
        simp only [startsWithAll, Bool.and_true] at h
        have hs : sign (d :: r) = 0 := by
          cases r with
          | nil => rfl
          | cons x r => simp [sign, isSign_eq_false_of_isDigit h]
        simp [hs, digitRun, h]
    · cases cs with
      | nil => simp [startsWithAll] at h
      | cons s r =>
        cases r with
        | nil => simp [startsWithAll] at h
        | cons d r =>
          simp only [startsWithAll, Bool.and_true, Bool.and_eq_true] at h
          simp [sign, h, digitRun]
  simp only [number, Nat.ne_of_gt digits, if_false]
  exact ⟨_, _, rfl⟩

theorem character_isSome {cs : List Char} (h : startsWithAll [isSingleQuote] cs = true) :
    ∃ e, character cs = some e := by
  cases cs with
  | nil => simp [startsWithAll] at h
  | cons c r =>
    simp only [startsWithAll, Bool.and_true] at h
    exact ⟨(characterBody r).after 1, by simp [character, h]⟩

theorem operator_isSome {cs : List Char} (h : cs ≠ []) : ∃ e, operator cs = some e := by
  cases cs with
  | nil => exact absurd rfl h
  | cons c r =>
    simp only [operator]
    split
    · exact ⟨_, rfl⟩
    · split <;> exact ⟨_, rfl⟩

end Extent

namespace Lexer

open Chars

section Represents

variable {s : String} {lx lx' : Lexer}

theorem skip_represents (h : lx.cursor.Represents s) (k : Nat) : (lx.skip k).cursor.Represents s :=
  h.represents_advance k

theorem emitToken_ok (h : lx.cursor.Represents s) (kind : TokenKind)
    (hp : 0 < lx.cursor.pending) :
    ∃ lx' t, lx.emitToken kind = .ok (lx', t) ∧ lx'.cursor.Represents s := by
  obtain ⟨l, c, he, hc⟩ := Cursor.emit_ok h hp
  exact ⟨_, _, by rw [emitToken, he], hc⟩

theorem skip_pending_pos {k : Nat} (hk : 0 < k) (hr : lx.cursor.rest ≠ []) :
    0 < (lx.skip k).cursor.pending :=
  Cursor.advance_pending_pos hk hr

/-- Moving over an extent and finishing it faults only if a token is emitted from no
character; the cursor stays in step with its text. -/
theorem finish_ok (h : lx.cursor.Represents s) {e : Extent TokenKind} (hr : lx.cursor.rest ≠ [])
    (hpos : ∀ k, e.outcome = .ok k → 0 < e.length) :
    ∃ r, lx.finish e = .ok r ∧ r.1.cursor.Represents s := by
  unfold finish
  dsimp only
  split
  · next k hk =>
    obtain ⟨lx', t, he, hrep⟩ :=
      emitToken_ok (skip_represents h e.length) k (skip_pending_pos (hpos k hk) hr)
    rw [he]
    exact ⟨_, rfl, hrep⟩
  · exact ⟨_, rfl, skip_represents h e.length⟩

theorem skipBlank_represents (h : lx.cursor.Represents s) (h₁ : lx.skipBlank = .ok lx') :
    lx'.cursor.Represents s := by
  unfold skipBlank at h₁
  split at h₁
  · cases h₁
  · next l c he =>
    cases h₁
    exact (skip_represents h _).of_emit he

theorem skipComment_represents (h : lx.cursor.Represents s) (h₁ : lx.skipComment = .ok lx') :
    lx'.cursor.Represents s := by
  unfold skipComment at h₁
  split at h₁
  · cases h₁
  · split at h₁
    · cases h₁
    · next l c he =>
      cases h₁
      exact (skip_represents h _).of_emit he

end Represents

theorem rest_ne_nil_of_peek {c : Cursor} {t : Char → Bool} {ts : List (Char → Bool)}
    (h : c.peek (t :: ts) = true) : c.rest ≠ [] := by
  intro hr
  simp [Cursor.peek, hr, startsWithAll] at h

theorem classify_identifier {lx : Lexer} (h : lx.classify = .identifier) :
    lx.cursor.peek [isIdentStart] = true := by
  simp only [classify] at h
  repeat' split at h
  all_goals first | assumption | cases h

theorem classify_number {lx : Lexer} (h : lx.classify = .number) :
    lx.cursor.peek [isDigit] = true ∨ lx.cursor.peek [isSign, isDigit] = true := by
  simp only [classify] at h
  split at h
  · cases h
  · split at h
    · next hn =>
      simp only [Bool.or_eq_true, Bool.and_eq_true, Bool.not_eq_true'] at hn
      rcases hn with hd | ⟨-, hs⟩
      · exact .inl hd
      · exact .inr hs
    · repeat' split at h
      all_goals cases h

theorem classify_character {lx : Lexer} (h : lx.classify = .character) :
    lx.cursor.peek [isSingleQuote] = true := by
  simp only [classify] at h
  repeat' split at h
  all_goals first | assumption | cases h

/-! ### The scan of each class -/

/-- The class of the token at the front of a text, after an operand or not. -/
def classOf (afterOperand : Bool) (cs : List Char) : TokenClass :=
  if startsWithAll [isIdentStart] cs then .identifier
  else if startsWithAll [isDigit] cs || (!afterOperand && startsWithAll [isSign, isDigit] cs)
  then .number
  else if startsWithAll [isSingleQuote] cs then .character
  else if startsWithAll [isDoubleQuote] cs then .string
  else .operator

theorem classify_eq (lx : Lexer) : lx.classify = classOf lx.afterOperand lx.cursor.rest := rfl

/-- What the scan of the class of the token at the front of a text reads. -/
def scan (afterOperand : Bool) (cs : List Char) : Option (Extent TokenKind) :=
  match classOf afterOperand cs with
  | .identifier => (Extent.identifier cs).map fun n => ⟨n, .ok .identifier⟩
  | .number => (Extent.number cs).map fun nk => ⟨nk.1, .ok nk.2⟩
  | .character => Extent.character cs
  | .string => some (Extent.string cs)
  | .operator => Extent.operator cs

theorem lexToken_eq_finish {lx : Lexer} (hr : lx.cursor.rest ≠ []) :
    ∃ e, scan lx.afterOperand lx.cursor.rest = some e ∧ lx.lexToken = lx.finish e := by
  unfold lexToken scan
  rw [← classify_eq]
  cases hk : lx.classify with
  | identifier =>
    obtain ⟨n, hn⟩ := Extent.identifier_isSome (classify_identifier hk)
    refine ⟨_, by rw [hn]; rfl, ?_⟩
    simp only [lexIdentifier, hn, finish]
  | number =>
    obtain ⟨n, k, hn⟩ := Extent.number_isSome (classify_number hk)
    refine ⟨_, by rw [hn]; rfl, ?_⟩
    simp only [lexNumber, hn, finish]
  | character =>
    obtain ⟨e, he⟩ := Extent.character_isSome (classify_character hk)
    exact ⟨e, he, by simp only [lexCharacter, he]⟩
  | string => exact ⟨_, rfl, rfl⟩
  | operator =>
    obtain ⟨e, he⟩ := Extent.operator_isSome hr
    exact ⟨e, he, by simp only [lexOperator, he]⟩

theorem scan_length_pos {a : Bool} {cs : List Char} {e : Extent TokenKind} {k : TokenKind}
    (h : scan a cs = some e) (hk : e.outcome = .ok k) : 0 < e.length := by
  unfold scan at h
  split at h
  · obtain ⟨n, hn, rfl⟩ := Option.map_eq_some_iff.mp h
    exact Extent.identifier_pos hn
  · obtain ⟨⟨n, k'⟩, hn, rfl⟩ := Option.map_eq_some_iff.mp h
    exact Extent.number_pos hn
  · exact Extent.character_length_pos h
  · cases h
    exact Extent.string_length_pos hk
  · exact Extent.operator_length_pos h hk

section Represents

variable {s : String} {lx : Lexer}

/-- A scan that the token stream starts while a character is left never faults. -/
theorem lexToken_ok (h : lx.cursor.Represents s) (hr : lx.cursor.rest ≠ []) :
    ∃ r, lx.lexToken = .ok r ∧ r.1.cursor.Represents s := by
  obtain ⟨e, hscan, hfin⟩ := lexToken_eq_finish hr
  rw [hfin]
  exact finish_ok h hr fun _ hk => scan_length_pos hscan hk

theorem skipBlank_ok (h : lx.cursor.Represents s) (hb : lx.cursor.peek [isBlank] = true) :
    ∃ lx', lx.skipBlank = .ok lx' := by
  obtain ⟨l, c, he, -⟩ := Cursor.emit_ok (skip_represents h _)
    (skip_pending_pos (Extent.blank_pos hb) (rest_ne_nil_of_peek hb))
  exact ⟨{ lx with cursor := c }, by simp only [skipBlank, he]⟩

theorem skipComment_ok (h : lx.cursor.Represents s)
    (hs : lx.cursor.peek [isSlash, isSlash] = true) : ∃ lx', lx.skipComment = .ok lx' := by
  obtain ⟨n, hn, hpos⟩ := Extent.comment_isSome hs
  obtain ⟨l, c, he, -⟩ := Cursor.emit_ok (skip_represents h _)
    (skip_pending_pos hpos (rest_ne_nil_of_peek hs))
  exact ⟨{ lx with cursor := c }, by simp only [skipComment, hn, he]⟩

end Represents

/-! ### The branches of the token stream -/

theorem nextToken_of_end {lx : Lexer} (hc : ¬lx.cursor.has 0 = true) :
    lx.nextToken = .ok (lx, none) := by
  rw [nextToken, if_neg hc]

theorem nextToken_of_blank {lx lx' : Lexer} (hc : lx.cursor.has 0 = true)
    (hb : lx.cursor.peek [isBlank] = true) (h : lx.skipBlank = .ok lx') :
    lx.nextToken = lx'.nextToken := by
  rw [nextToken, if_pos hc, dif_pos hb]
  split
  · next hf => rw [h] at hf; cases hf
  · next hf => rw [h] at hf; cases hf; rfl

theorem nextToken_of_comment {lx lx' : Lexer} (hc : lx.cursor.has 0 = true)
    (hb : ¬lx.cursor.peek [isBlank] = true) (hs : lx.cursor.peek [isSlash, isSlash] = true)
    (h : lx.skipComment = .ok lx') : lx.nextToken = lx'.nextToken := by
  rw [nextToken, if_pos hc, dif_neg hb, dif_pos hs]
  split
  · next hf => rw [h] at hf; cases hf
  · next hf => rw [h] at hf; cases hf; rfl

theorem nextToken_of_token {lx : Lexer} (hc : lx.cursor.has 0 = true)
    (hb : ¬lx.cursor.peek [isBlank] = true) (hs : ¬lx.cursor.peek [isSlash, isSlash] = true) :
    lx.nextToken = lx.lexToken.map fun r => (r.1, some r.2) := by
  rw [nextToken, if_pos hc, dif_neg hb, dif_neg hs]
  cases lx.lexToken <;> rfl

/-! ### No fault anywhere in the stream -/

section Represents

variable {s : String}

/-- From every lexer whose cursor is in step with its text, the next token of the stream is
found without a fault, and the cursor stays in step. -/
theorem nextToken_ok {lx : Lexer} (h : lx.cursor.Represents s) :
    ∃ r, lx.nextToken = .ok r ∧ r.1.cursor.Represents s := by
  induction lx using nextToken.induct with
  | case1 lx hc hb f hf =>
    obtain ⟨lx', h'⟩ := skipBlank_ok h hb
    rw [h'] at hf
    cases hf
  | case2 lx hc hb lx₁ h₁ ih =>
    rw [nextToken_of_blank hc hb h₁]
    exact ih (skipBlank_represents h h₁)
  | case3 lx hc hb hs f hf =>
    obtain ⟨lx', h'⟩ := skipComment_ok h hs
    rw [h'] at hf
    cases hf
  | case4 lx hc hb hs lx₁ h₁ ih =>
    rw [nextToken_of_comment hc hb hs h₁]
    exact ih (skipComment_represents h h₁)
  | case5 lx hc hb hs f hf =>
    obtain ⟨r, hr, -⟩ := lexToken_ok h (List.ne_nil_of_length_pos ((Cursor.has_iff _ _).mp hc))
    rw [hr] at hf
    cases hf
  | case6 lx hc hb hs lx₁ r hr =>
    obtain ⟨r', hr', hrep⟩ :=
      lexToken_ok h (List.ne_nil_of_length_pos ((Cursor.has_iff _ _).mp hc))
    rw [hr, Except.ok.injEq] at hr'
    subst hr'
    exact ⟨_, by rw [nextToken_of_token hc hb hs, hr]; rfl, hrep⟩
  | case7 lx hc => exact ⟨_, nextToken_of_end hc, h⟩

theorem next_ok {lx : Lexer} (h : lx.cursor.Represents s) :
    ∃ r, lx.next = .ok r ∧ r.1.cursor.Represents s := by
  obtain ⟨⟨lx', r⟩, hn, hrep⟩ := nextToken_ok h
  unfold next
  split
  · exact ⟨_, rfl, h⟩
  · rw [hn]
    rcases r with _ | _ | _ <;> exact ⟨_, rfl, hrep⟩

theorem collect_ok {lx : Lexer} (h : lx.cursor.Represents s) (acc : List Token) :
    ∃ r, lx.collect acc = .ok r := by
  induction lx, acc using collect.induct with
  | case1 lx acc f hf =>
    obtain ⟨r, hr, -⟩ := next_ok h
    rw [hr] at hf
    cases hf
  | case2 lx acc lx' hn => exact ⟨.ok acc.reverse, by rw [collect]; split <;> simp_all⟩
  | case3 lx acc lx' e hn => exact ⟨.error e, by rw [collect]; split <;> simp_all⟩
  | case4 lx acc lx' t hn ih =>
    -- the pull that gave the token keeps the cursor in step
    have hrep : lx'.cursor.Represents s := by
      obtain ⟨r, hr, hrep⟩ := next_ok h
      rw [hn, Except.ok.injEq] at hr
      subst hr
      exact hrep
    obtain ⟨r', hr'⟩ := ih hrep
    clear ih
    exact ⟨r', by rw [collect]; split <;> simp_all⟩

theorem performAll_stream_ok {lx : Lexer} (h : lx.cursor.Represents s) (calls : List Call)
    (hcalls : ∀ call ∈ calls, call = .next ∨ call = .nextToken) :
    ∀ a ∈ lx.performAll calls, ∃ v, a = .ok v := by
  induction calls generalizing lx with
  | nil => simp [performAll]
  | cons call calls ih =>
    have step : ∃ a lx', lx.perform call = .ok (a, lx') ∧ lx'.cursor.Represents s := by
      rcases hcalls call (by simp) with rfl | rfl
      · obtain ⟨⟨lx', r⟩, hn, hrep⟩ := next_ok h
        exact ⟨.item r, lx', by simp [perform, hn, Except.map], hrep⟩
      · obtain ⟨⟨lx', r⟩, hn, hrep⟩ := nextToken_ok h
        exact ⟨.item r, lx', by simp [perform, hn, Except.map], hrep⟩
    obtain ⟨a, lx', hp, hrep⟩ := step
    intro e he
    simp only [performAll, hp, List.mem_cons] at he
    rcases he with rfl | he
    · exact ⟨a, rfl⟩
    · exact ih hrep (fun c hc => hcalls c (by simp [hc])) e he

end Represents

/-- Lexing never faults. The cursor of a lexer at the start of a text is in step with the text.
From every lexer whose cursor is in step with its text the next item of the stream, with or
without the end after an error, is found without a fault, and the cursor stays in step; every
skip in the loop of the stream consumes a character; `lex` always gives its tokens or its error;
and any run of `next` and `nextToken` calls from the start of a text, also one that goes on after
an error, meets no fault. -/
theorem stream_never_faults :
    (∀ s, (start s).cursor.Represents s) ∧
      (∀ (s : String) (lx : Lexer), lx.cursor.Represents s →
        (∃ r, lx.nextToken = .ok r ∧ r.1.cursor.Represents s) ∧
          ∃ r, lx.next = .ok r ∧ r.1.cursor.Represents s) ∧
      (∀ (s : String) (lx : Lexer), lx.cursor.Represents s → lx.cursor.peek [isBlank] = true →
        ∃ lx', lx.skipBlank = .ok lx' ∧ lx'.cursor.rest.length < lx.cursor.rest.length) ∧
      (∀ (s : String) (lx : Lexer), lx.cursor.Represents s →
        lx.cursor.peek [isSlash, isSlash] = true →
        ∃ lx', lx.skipComment = .ok lx' ∧ lx'.cursor.rest.length < lx.cursor.rest.length) ∧
      (∀ s, ∃ r, lex s = .ok r) ∧
      ∀ (s : String) (calls : List Call),
        (∀ call ∈ calls, call = .next ∨ call = .nextToken) →
        ∀ a ∈ (start s).performAll calls, ∃ v, a = .ok v := by
  have hstart : ∀ s, (start s).cursor.Represents s := fun s => Cursor.represents_start s
  refine ⟨hstart, fun s lx h => ⟨nextToken_ok h, next_ok h⟩, ?_, ?_,
    fun s => collect_ok (hstart s) [],
    fun s calls hcalls => performAll_stream_ok (hstart s) calls hcalls⟩
  · intro s lx h hb
    obtain ⟨lx', h'⟩ := skipBlank_ok h hb
    exact ⟨lx', h', rest_length_skipBlank_lt hb h'⟩
  · intro s lx h hs
    obtain ⟨lx', h'⟩ := skipComment_ok h hs
    exact ⟨lx', h', rest_length_skipComment_lt hs h'⟩

/-- At concrete texts: a blank and a comment are skipped by consuming, and the stream goes on
without a fault after the failed character literal `'ab'` has left its characters pending. -/
theorem stream_never_faults_after_error :
    ((Lexer.start " x").cursor.Represents " x" ∧
      (Lexer.start " x").cursor.peek [isBlank] = true ∧
      ∃ lx', (Lexer.start " x").skipBlank = .ok lx' ∧
        lx'.cursor.rest.length < (Lexer.start " x").cursor.rest.length) ∧
      ((Lexer.start "//x").cursor.Represents "//x" ∧
        (Lexer.start "//x").cursor.peek [isSlash, isSlash] = true ∧
        ∃ lx', (Lexer.start "//x").skipComment = .ok lx' ∧
          lx'.cursor.rest.length < (Lexer.start "//x").cursor.rest.length) ∧
      (∀ call ∈ [Call.nextToken, .nextToken, .next], call = .next ∨ call = .nextToken) ∧
      ∀ a ∈ (start "'ab' c").performAll [.nextToken, .nextToken, .next], ∃ v, a = .ok v :=
  ⟨⟨stream_never_faults.1 _, by decide,
      stream_never_faults.2.2.1 _ _ (stream_never_faults.1 _) (by decide)⟩,
    ⟨stream_never_faults.1 _, by decide,
      stream_never_faults.2.2.2.1 _ _ (stream_never_faults.1 _) (by decide)⟩, by decide,
    stream_never_faults.2.2.2.2.2 _ _ (by decide)⟩

end Lexer

end Lexis
