import Lexis.Proofs.Stream

/-!
A whole pass of the token stream, read off its text. From a lexer between two tokens the stream
yields tokens, each after trivia and where a token may start, until the text ends in trivia or a
scan fails. `Yields s a i ts r` says so, with `r` the error that ends the pass, if any.

Along such a pass each pull of `next` answers with the next token, then with the error, and from
then on with nothing, and `collect` gives the tokens or the error (`Lexer.Between.pass`); a pass
with no error is one of `Lexes` (`lex_lexes`). Main statement: `next_protocol`, the pulls of the
stream from the start of a text, how many of them answer with something, and what `lex` gives
there.
-/

namespace Lexis

open Grammar Lexer

/-- The first `n` pulls of a stream that yields the tokens `ts`, then the error `r` if there is
one, and then nothing on every later pull. -/
def streamItems : List Token → Option LexError → Nat → List (Option (Except LexError Token))
  | _, _, 0 => []
  | t :: ts, r, n + 1 => some (.ok t) :: streamItems ts r n
  | [], some e, n + 1 => some (.error e) :: streamItems [] none n
  | [], none, n + 1 => none :: streamItems [] none n

/-- What a whole pass gives: its tokens, or the error that ended it. -/
def passResult (ts : List Token) : Option LexError → Except LexError (List Token)
  | none => .ok ts
  | some e => .error e

theorem passResult_eq_error {ts : List Token} {r : Option LexError} {e : LexError} :
    passResult ts r = .error e ↔ r = some e := by
  cases r <;> simp [passResult]

theorem passResult_eq_ok {ts us : List Token} {r : Option LexError} :
    passResult ts r = .ok us ↔ r = none ∧ ts = us := by
  cases r <;> simp [passResult]

theorem TokenStart.lt_length {s : List Char} {j : Nat} (h : TokenStart (s.drop j)) :
    j < s.length := by
  have hleft : s.drop j ≠ [] := ((tokenStart_iff _).mp h).1
  rw [Ne, List.drop_eq_nil_iff] at hleft
  omega

/-- From offset `i` of `s`, after an operand or not as `a` says, the stream yields the tokens `ts`
and then ends: in trivia up to the end of the text when `r` is `none`, or with the error `r`. Each
token, and the scan that fails, starts after trivia where a token may start. -/
inductive Yields (s : List Char) : Bool → Nat → List Token → Option LexError → Prop
  | done {a : Bool} {i : Nat} : Trivia (s.drop i) → Yields s a i [] none
  | error {a : Bool} {i j n : Nat} {k : LexErrorKind} : i ≤ j →
      Trivia ((s.drop i).take (j - i)) → TokenStart (s.drop j) →
      scan a (s.drop j) = some ⟨n, .error k⟩ → Yields s a i [] (some ⟨k, j + n⟩)
  | token {a : Bool} {i j n : Nat} {k : TokenKind} {ts : List Token} {r : Option LexError} :
      i ≤ j → Trivia ((s.drop i).take (j - i)) → TokenStart (s.drop j) →
      scan a (s.drop j) = some ⟨n, .ok k⟩ →
      Yields s (tokenAt k s j n).endsOperand (j + n) ts r → Yields s a i (tokenAt k s j n :: ts) r

/-- Each token takes at least one character and the failing scan starts at one, so a pass from
offset `i` answers with something at most once per character left. -/
theorem Yields.length_le {s : List Char} {a : Bool} {i : Nat} {ts : List Token}
    {r : Option LexError} (h : Yields s a i ts r) : ts.length + r.toList.length ≤ s.length - i := by
  induction h with
  | done => simp
  | @error a i j n k hij _ hstart _ =>
    have hj := TokenStart.lt_length hstart
    simp only [List.length_nil, Option.toList_some, List.length_singleton]
    omega
  | @token a i j n k ts r hij _ _ hscan _ ih =>
    have hpos := scan_pos hscan
    have hle := (scan_spec hscan).2.1.le_length
    rw [List.length_drop] at hle
    simp only [List.length_cons]
    omega

/-! ### How far a failing scan reads -/

namespace Extent

open Chars

theorem closeCharacter_le (n : Nat) (r : List Char) :
    (closeCharacter n r).length ≤ n + r.length := by
  cases r with
  | nil => simp [closeCharacter]
  | cons c r =>
    simp only [closeCharacter]
    split <;> simp

theorem characterBody_le (r : List Char) : (characterBody r).length ≤ r.length := by
  match r with
  | [] => simp [characterBody]
  | [c] =>
    have hclose := closeCharacter_le 1 []
    simp only [characterBody]
    split_ifs <;> simp_all
  | c :: x :: r =>
    have hplain := closeCharacter_le 1 (x :: r)
    have hescape := closeCharacter_le 2 r
    simp only [characterBody]
    split_ifs <;> simp_all <;> omega

theorem character_le {cs : List Char} {e : Extent TokenKind} (h : character cs = some e) :
    e.length ≤ cs.length := by
  match cs, h with
  | c :: r, h =>
    simp only [character] at h
    split at h
    · cases h
      have := characterBody_le r
      simp only [after_length, List.length_cons]
      omega
    · cases h

theorem stringBody_le (r : List Char) : (stringBody r).length ≤ r.length := by
  induction r using stringBody.induct with
  | case1 c r hq => simp [stringBody_cons, hq]
  | case2 c hq hb x r hx ih =>
    simp only [stringBody_cons, hq, hb, hx, Bool.false_eq_true, if_false, if_true, after_length,
      List.length_cons]
    omega
  | case3 c hq hb x r hx => simp [stringBody_cons, hq, hb, hx]
  | case4 c hq hb => simp [stringBody_cons, hq, hb]
  | case5 c r hq hb hs ih =>
    simp only [stringBody_cons, hq, hb, hs, Bool.false_eq_true, if_false, if_true, after_length,
      List.length_cons]
    omega
  | case6 c r hq hb hs hl => simp [stringBody_cons, hq, hb, hs, hl]
  | case7 c r hq hb hs hl => simp [stringBody_cons, hq, hb, hs, hl]
  | case8 => simp [stringBody]

theorem string_le (cs : List Char) : (string cs).length ≤ cs.length := by
  cases cs with
  | nil => simp [string]
  | cons c r =>
    have := stringBody_le r
    simp only [string]
    split <;> simp only [after_length, List.length_cons] <;> omega

theorem operator_le {cs : List Char} {e : Extent TokenKind} (h : operator cs = some e) :
    e.length ≤ cs.length := by
  match cs, h with
  | c :: r, h =>
    simp only [operator] at h
    split at h
    · cases h
      cases r with
      | cons x _ => simp only [List.length_cons]; split <;> omega
      | nil => simp
    · split at h <;> cases h <;> simp

end Extent

namespace Lexer

/-- No scan reads past the end of the text. -/
theorem scan_length_le {a : Bool} {cs : List Char} {e : Extent TokenKind} (h : scan a cs = some e) :
    e.length ≤ cs.length := by
  unfold scan at h
  split at h
  · obtain ⟨n, hn, rfl⟩ := Option.map_eq_some_iff.mp h
    exact (Extent.identifier_longest hn).le_length
  · obtain ⟨⟨n, k⟩, hn, rfl⟩ := Option.map_eq_some_iff.mp h
    exact Extent.number_le hn
  · exact Extent.character_le h
  · cases h
    exact Extent.string_le cs
  · exact Extent.operator_le h

/-! ### The steps of a pass -/

theorem finish_error {lx lx' : Lexer} {ext : Extent TokenKind} {e : LexError}
    (h : lx.finish ext = .ok (lx', .error e)) :
    ∃ k, ext.outcome = .error k ∧ e = ⟨k, (lx.skip ext.length).cursor.index⟩ := by
  unfold finish at h
  dsimp only at h
  split at h
  · split at h <;> cases h
  · next k hk =>
    cases h
    exact ⟨k, hk, rfl⟩

/-- A step of the stream that fails skips trivia to where a token may start, and there the scan
of the class ahead fails after reading as far as the error's offset. -/
theorem nextToken_error {s : String} {lx lx' : Lexer} {e : LexError} (hb : Between s lx)
    (h : lx.nextToken = .ok (lx', some (.error e))) :
    ∃ j n k, lx.cursor.index ≤ j ∧
      Trivia ((s.toList.drop lx.cursor.index).take (j - lx.cursor.index)) ∧
      TokenStart (s.toList.drop j) ∧ scan lx.afterOperand (s.toList.drop j) = some ⟨n, .error k⟩ ∧
      e = ⟨k, j + n⟩ := by
  obtain ⟨lx₀, hb₀, hskip, hnext, hend⟩ := nextToken_skips hb
  rcases hend with ⟨-, hnone⟩ | ⟨hstart, htok⟩
  · rw [hnext, hnone] at h
    cases h
  have hleft : lx₀.cursor.rest ≠ [] := by
    rw [hb₀.represents.rest_eq]
    exact ((tokenStart_iff _).mp hstart).1
  obtain ⟨⟨n, o⟩, hscan, hfin⟩ := lexToken_eq_finish hleft
  rw [hnext, htok, hfin] at h
  cases hl : lx₀.finish ⟨n, o⟩ with
  | error f => simp [hl, Except.map] at h
  | ok p =>
    obtain ⟨lx₁, r⟩ := p
    simp only [hl, Except.map, Except.ok.injEq, Prod.mk.injEq, Option.some.injEq] at h
    obtain ⟨rfl, rfl⟩ := h
    obtain ⟨k, hk, rfl⟩ := finish_error hl
    simp only at hk
    subst hk
    -- the scan reads no further than the text goes, so the error's offset is where it stopped
    obtain ⟨-, hidx, -⟩ :=
      hb₀.represents.advance (index_add_le hb₀.represents (scan_length_le hscan))
    rw [hb₀.represents.rest_eq, hskip.afterOperand_eq] at hscan
    exact ⟨lx₀.cursor.index, n, k, hskip.index_le, hskip.trivia, hstart, hscan, by
      simp only [skip, hidx]⟩

theorem nextToken_none_again {s : String} {lx lx' : Lexer} (hb : Between s lx)
    (h : lx.nextToken = .ok (lx', none)) :
    lx'.nextToken = .ok (lx', none) ∧ lx'.stopped = lx.stopped := by
  obtain ⟨lx₀, -, hskip, hnext, hend⟩ := nextToken_skips hb
  rcases hend with ⟨-, hnone⟩ | ⟨-, htok⟩
  · rw [hnext, hnone] at h
    cases h
    exact ⟨hnone, hskip.stopped_eq⟩
  · rw [hnext, htok] at h
    cases hl : lx₀.lexToken <;> simp [hl, Except.map] at h

theorem next_of_stopped {lx : Lexer} (hs : lx.stopped = true) : lx.next = .ok (lx, none) := by
  simp [next, hs]

theorem next_of_nextToken {lx lx' : Lexer} {r : Option (Except LexError Token)}
    (hs : lx.stopped = false) (h : lx.nextToken = .ok (lx', r)) (hr : ∀ e, r ≠ some (.error e)) :
    lx.next = .ok (lx', r) := by
  unfold next
  rw [if_neg (by simp [hs]), h]
  match r, hr with
  | none, _ => rfl
  | some (.ok _), _ => rfl
  | some (.error e), hr => exact absurd rfl (hr e)

theorem nextToken_of_next_error {lx lx' : Lexer} {e : LexError} (hs : lx.stopped = false)
    (h : lx.next = .ok (lx', some (.error e))) :
    ∃ lx₁, lx.nextToken = .ok (lx₁, some (.error e)) := by
  unfold next at h
  rw [if_neg (by simp [hs])] at h
  split at h
  · cases h
  · next lx₁ e₁ heq =>
    cases h
    exact ⟨lx₁, heq⟩
  · cases h
    simp_all

/-! ### Pulling the stream -/

theorem performAll_next_succ {lx lx' : Lexer} {r : Option (Except LexError Token)}
    (h : lx.next = .ok (lx', r)) (n : Nat) :
    lx.performAll (List.replicate (n + 1) .next) =
      .ok (.item r) :: lx'.performAll (List.replicate n .next) := by
  simp [List.replicate_succ, performAll, perform, h, Except.map]

theorem performAll_next_ended {lx : Lexer} (h : lx.next = .ok (lx, none)) (n : Nat) :
    lx.performAll (List.replicate n .next) = (streamItems [] none n).map fun x => .ok (.item x) := by
  induction n with
  | zero => rfl
  | succ n ih =>
    rw [performAll_next_succ h, ih]
    rfl

/-- The run of the stream from a lexer between two tokens: it yields what `Yields` says, its pulls
answer with the tokens, the error and then nothing, and `collect` gives the tokens after those
already collected, or the error. -/
theorem Between.pass {s : String} {lx : Lexer} (acc : List Token) (hb : Between s lx)
    (hs : lx.stopped = false) :
    ∃ ts r, Yields s.toList lx.afterOperand lx.cursor.index ts r ∧
      (∀ n, lx.performAll (List.replicate n .next) =
        (streamItems ts r n).map fun x => .ok (.item x)) ∧
      lx.collect acc = .ok (passResult (acc.reverse ++ ts) r) := by
  -- on the loop of collect: after a token the lexer is between tokens again and not stopped
  induction lx, acc using collect.induct with
  | case1 lx acc f hf =>
    obtain ⟨r, hr, -⟩ := next_ok hb.represents
    rw [hr] at hf
    cases hf
  | case2 lx acc lx' hn =>
    have hstep := nextToken_of_next hs hn (by simp)
    obtain ⟨hagain, hstopped⟩ := nextToken_none_again hb hstep
    have hended : lx'.next = .ok (lx', none) :=
      next_of_nextToken (hstopped.trans hs) hagain (by simp)
    refine ⟨[], none, .done (nextToken_none hb hstep), fun n => ?_, ?_⟩
    · cases n with
      | zero => rfl
      | succ n => rw [performAll_next_succ hn, performAll_next_ended hended]; rfl
    · rw [collect_of_end hn]
      simp [passResult]
  | case3 lx acc lx' e hn =>
    obtain ⟨lx₁, hstep⟩ := nextToken_of_next_error hs hn
    obtain ⟨j, n, k, hij, htriv, hstart, hscan, rfl⟩ := nextToken_error hb hstep
    have hended : lx'.next = .ok (lx', none) := next_of_stopped (next_error hn).1
    refine ⟨[], some ⟨k, j + n⟩, .error hij htriv hstart hscan, fun m => ?_, ?_⟩
    · cases m with
      | zero => rfl
      | succ m => rw [performAll_next_succ hn, performAll_next_ended hended]; rfl
    · rw [collect_of_error hn]
      rfl
  | case4 lx acc lx' t hn ih =>
    have hstep := nextToken_of_next hs hn (by simp)
    obtain ⟨j, n, k, hij, htriv, hstart, hscan, rfl, hb', hidx, ha, hs'⟩ := nextToken_token hb hstep
    obtain ⟨ts, r, hyields, hpulls, hcollect⟩ := ih hb' (hs'.trans hs)
    rw [hidx, ha] at hyields
    refine ⟨_ :: ts, r, .token hij htriv hstart hscan hyields, fun m => ?_, ?_⟩
    · cases m with
      | zero => rfl
      | succ m => rw [performAll_next_succ hn, hpulls]; rfl
    · rw [collect_of_token hn, hcollect]
      simp

end Lexer

/-- The pass of `lex` over a text: from its start the stream yields the tokens `ts`, then the
error `r` if there is one, and `lex` gives what the pass gives. -/
theorem lex_pass (s : String) :
    ∃ ts r, Yields s.toList false 0 ts r ∧
      (∀ n, (Lexer.start s).performAll (List.replicate n .next) =
        (streamItems ts r n).map fun x => .ok (.item x)) ∧
      lex s = .ok (passResult ts r) := by
  obtain ⟨ts, r, hyields, hpulls, hcollect⟩ := (between_start s).pass [] rfl
  exact ⟨ts, r, hyields, hpulls, by simpa [lex] using hcollect⟩

theorem lex_ok_yields {s : String} {ts : List Token} (h : lex s = .ok (.ok ts)) :
    Yields s.toList false 0 ts none := by
  obtain ⟨us, r, hyields, -, hlex⟩ := lex_pass s
  rw [h, Except.ok.injEq, eq_comm, passResult_eq_ok] at hlex
  obtain ⟨rfl, rfl⟩ := hlex
  exact hyields

theorem lex_error_yields {s : String} {e : LexError} (h : lex s = .ok (.error e)) :
    ∃ ts, Yields s.toList false 0 ts (some e) ∧
      ∀ n, (Lexer.start s).performAll (List.replicate n .next) =
        (streamItems ts (some e) n).map fun x => .ok (.item x) := by
  obtain ⟨ts, r, hyields, hpulls, hlex⟩ := lex_pass s
  rw [h, Except.ok.injEq, eq_comm, passResult_eq_error] at hlex
  subst hlex
  exact ⟨ts, hyields, hpulls⟩

theorem Yields.lexes {s : List Char} {a : Bool} {i : Nat} {ts : List Token} {r : Option LexError}
    (h : Yields s a i ts r) (hr : r = none) : Lexes s a i ts := by
  induction h with
  | done htriv => exact .done htriv
  | error => cases hr
  | token hij htriv _ hscan _ ih => exact .token hij htriv hscan (ih hr)

/-- Every token list that `lex` gives is one that its text lexes to from the start. -/
theorem lex_lexes {s : String} {ts : List Token} (h : lex s = .ok (.ok ts)) :
    Lexes s.toList false 0 ts :=
  (lex_ok_yields h).lexes rfl

/-- The iterator protocol of the token stream. Pulled with `next` from the start of a text, the
stream answers with its tokens, then with at most one error, and then with nothing on every later
pull, after the end of the text as after an error; it answers with something at most once per
character of the text; and `lex` gives exactly the tokens when no error comes, and the error
otherwise. -/
theorem next_protocol (s : String) :
    ∃ ts r, ts.length + r.toList.length ≤ s.length ∧
      (∀ n, (Lexer.start s).performAll (List.replicate n .next) =
        (streamItems ts r n).map fun x => .ok (.item x)) ∧
      lex s = .ok (passResult ts r) := by
  obtain ⟨ts, r, hyields, hpulls, hlex⟩ := lex_pass s
  have hlen := hyields.length_le
  rw [Nat.sub_zero, String.length_toList] at hlen
  exact ⟨ts, r, hlen, hpulls, hlex⟩

end Lexis
