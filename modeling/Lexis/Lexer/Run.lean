import Lexis.Lexer.Basic

/-!
The token stream. `Lexer.nextToken` skips blank runs and comments and then scans one token
with the scanner of its class; `Lexer.next` does the same but ends the stream for good after a
lexical error; `lex` collects the whole stream, or gives its error.

Both loops end because every step consumes: a skip takes at least one character, and so does
every scanner that completes a token (`lexToken_rest_lt`). These facts are proved here, before
the loops, and are the measures of their recursion.
-/

namespace Lexis

namespace Extent

theorem identifier_pos {cs : List Char} {n : Nat} (h : identifier cs = some n) : 0 < n := by
  cases cs with
  | nil => simp [identifier] at h
  | cons c r =>
    simp only [identifier] at h
    split at h
    · cases h; omega
    · cases h

theorem number_pos {cs : List Char} {n : Nat} {k : TokenKind} (h : number cs = some (n, k)) :
    0 < n := by
  simp only [number] at h
  split at h
  · cases h
  · next hd =>
    cases h
    omega

theorem character_length_pos {cs : List Char} {e : Extent TokenKind}
    (h : character cs = some e) : 0 < e.length := by
  cases cs with
  | nil => simp [character] at h
  | cons c r =>
    simp only [character] at h
    split at h
    · cases h; simp
    · cases h

theorem string_length_pos {cs : List Char} {k : TokenKind}
    (h : (string cs).outcome = .ok k) : 0 < (string cs).length := by
  cases cs with
  | nil => simp [string] at h
  | cons c r =>
    simp only [string] at h ⊢
    split
    · simp
    · next hc => simp [hc] at h

theorem operator_length_pos {cs : List Char} {e : Extent TokenKind} {k : TokenKind}
    (h : operator cs = some e) (hk : e.outcome = .ok k) : 0 < e.length := by
  cases cs with
  | nil => simp [operator] at h
  | cons c r =>
    simp only [operator] at h
    split at h
    · cases h
      split <;> (try split) <;> simp
    · split at h
      · cases h; simp
      · cases h; simp at hk

end Extent

namespace Lexer

theorem emitToken_rest {lx lx' : Lexer} {kind : TokenKind} {t : Token}
    (h : lx.emitToken kind = .ok (lx', t)) : lx'.cursor.rest = lx.cursor.rest := by
  unfold emitToken at h
  split at h
  · cases h
  · next l c he =>
    cases h
    exact Cursor.rest_of_emit he

theorem finish_token {lx lx' : Lexer} {e : Extent TokenKind} {t : Token}
    (h : lx.finish e = .ok (lx', .ok t)) :
    (∃ k, e.outcome = .ok k) ∧ lx'.cursor.rest = lx.cursor.rest.drop e.length := by
  unfold finish at h
  dsimp only at h
  split at h
  · next k hk =>
    split at h
    · cases h
    · next lx'' t' he =>
      cases h
      exact ⟨⟨k, hk⟩, by rw [emitToken_rest he, skip_rest]⟩
  · cases h

theorem rest_length_drop_lt {cs : List Char} {n : Nat} (hn : 0 < n) (hne : cs ≠ []) :
    (cs.drop n).length < cs.length := by
  have := List.length_pos_iff.mpr hne
  simp only [List.length_drop]
  omega

theorem lexIdentifier_rest_lt {lx lx' : Lexer} {t : Token} (h : lx.lexIdentifier = .ok (lx', t)) :
    lx'.cursor.rest.length < lx.cursor.rest.length := by
  unfold lexIdentifier at h
  split at h
  · cases h
  · next n hn =>
    rw [emitToken_rest h, skip_rest]
    apply rest_length_drop_lt (Extent.identifier_pos hn)
    intro hr; rw [hr] at hn; simp [Extent.identifier] at hn

theorem lexNumber_rest_lt {lx lx' : Lexer} {t : Token} (h : lx.lexNumber = .ok (lx', t)) :
    lx'.cursor.rest.length < lx.cursor.rest.length := by
  unfold lexNumber at h
  split at h
  · cases h
  · next n k hn =>
    rw [emitToken_rest h, skip_rest]
    apply rest_length_drop_lt (Extent.number_pos hn)
    intro hr; rw [hr] at hn; simp [Extent.number, Extent.sign, Extent.digitRun] at hn

/-- A scanner that completes a token consumes at least one character. -/
theorem lexToken_rest_lt {lx lx' : Lexer} {t : Token} (h : lx.lexToken = .ok (lx', .ok t)) :
    lx'.cursor.rest.length < lx.cursor.rest.length := by
  unfold lexToken at h
  dsimp only at h
  split at h
  · split at h
    · cases h
    · next lx'' t' he =>
      cases h
      exact lexIdentifier_rest_lt he
  · split at h
    · cases h
    · next lx'' t' he =>
      cases h
      exact lexNumber_rest_lt he
  · unfold lexCharacter at h
    split at h
    · cases h
    · next e he =>
      obtain ⟨_, hr⟩ := finish_token h
      rw [hr]
      apply rest_length_drop_lt (Extent.character_length_pos he)
      intro hr; rw [hr] at he; simp [Extent.character] at he
  · unfold lexString at h
    obtain ⟨⟨k, hk⟩, hr⟩ := finish_token h
    rw [hr]
    apply rest_length_drop_lt (Extent.string_length_pos hk)
    intro hr'; rw [hr'] at hk; simp [Extent.string] at hk
  · unfold lexOperator at h
    split at h
    · cases h
    · next e he =>
      obtain ⟨⟨k, hk⟩, hr⟩ := finish_token h
      rw [hr]
      apply rest_length_drop_lt (Extent.operator_length_pos he hk)
      intro hr'; rw [hr'] at he; simp [Extent.operator] at he

theorem finish_rest {lx lx' : Lexer} {e : Extent TokenKind} {r : Except LexError Token}
    (h : lx.finish e = .ok (lx', r)) : lx'.cursor.rest = lx.cursor.rest.drop e.length := by
  unfold finish at h
  dsimp only at h
  split at h
  · split at h
    · cases h
    · next lx'' t' he =>
      cases h
      rw [emitToken_rest he, skip_rest]
  · cases h
    exact skip_rest _ _

/-- No scanner gives back characters it has read. -/
theorem lexToken_rest_le {lx lx' : Lexer} {r : Except LexError Token}
    (h : lx.lexToken = .ok (lx', r)) : lx'.cursor.rest.length ≤ lx.cursor.rest.length := by
  have dropped : ∀ n, (lx.cursor.rest.drop n).length ≤ lx.cursor.rest.length :=
    fun n => (List.drop_suffix n lx.cursor.rest).length_le
  unfold lexToken at h
  dsimp only at h
  split at h
  · split at h
    · cases h
    · cases h
      exact Nat.le_of_lt (lexIdentifier_rest_lt (by assumption))
  · split at h
    · cases h
    · cases h
      exact Nat.le_of_lt (lexNumber_rest_lt (by assumption))
  · unfold lexCharacter at h
    split at h
    · cases h
    · rw [finish_rest h]; exact dropped _
  · unfold lexString at h
    rw [finish_rest h]; exact dropped _
  · unfold lexOperator at h
    split at h
    · cases h
    · rw [finish_rest h]; exact dropped _

theorem rest_length_skipBlank_lt {lx lx' : Lexer} (hb : lx.cursor.peek [Chars.isBlank] = true)
    (h : lx.skipBlank = .ok lx') : lx'.cursor.rest.length < lx.cursor.rest.length := by
  rw [skipBlank_rest h]
  cases hr : lx.cursor.rest with
  | nil => simp [Cursor.peek, hr, startsWithAll] at hb
  | cons x xs =>
    simp only [Cursor.peek, hr, startsWithAll, Bool.and_true] at hb
    simp only [Extent.blank, List.takeWhile_cons, hb, if_true, List.length_cons,
      List.drop_succ_cons, List.length_drop]
    omega

theorem rest_length_skipComment_lt {lx lx' : Lexer}
    (hs : lx.cursor.peek [Chars.isSlash, Chars.isSlash] = true)
    (h : lx.skipComment = .ok lx') : lx'.cursor.rest.length < lx.cursor.rest.length := by
  cases hr : lx.cursor.rest with
  | nil => simp [Cursor.peek, hr, startsWithAll] at hs
  | cons a r =>
    cases r with
    | nil => simp [Cursor.peek, hr, startsWithAll] at hs
    | cons b r =>
      simp only [Cursor.peek, hr, startsWithAll, Bool.and_true] at hs
      have hn : Extent.comment lx.cursor.rest =
          some (2 + (r.takeWhile fun c => !Chars.isLineBreak c).length) := by
        simp [hr, Extent.comment, hs]
      rw [skipComment_rest hn h, hr]
      simp only [List.length_drop, List.length_cons]
      omega

/-- The next token, skipping blank runs and comments before it; `none` at the end of the
text. -/
def nextToken (lx : Lexer) : Except Fault (Lexer × Option (Except LexError Token)) :=
  if lx.cursor.has 0 then
    if _hb : lx.cursor.peek [Chars.isBlank] then
      match _h : lx.skipBlank with
      | .error f => .error f
      | .ok lx' => lx'.nextToken
    else if _hs : lx.cursor.peek [Chars.isSlash, Chars.isSlash] then
      match _h : lx.skipComment with
      | .error f => .error f
      | .ok lx' => lx'.nextToken
    else
      match lx.lexToken with
      | .error f => .error f
      | .ok (lx', r) => .ok (lx', some r)
  else .ok (lx, none)
termination_by lx.cursor.rest.length
decreasing_by
  · exact rest_length_skipBlank_lt _hb _h
  · exact rest_length_skipComment_lt _hs _h

/-- A step of the token stream that yields a token consumes at least one character. -/
theorem nextToken_rest_lt {lx lx' : Lexer} {t : Token}
    (h : lx.nextToken = .ok (lx', some (.ok t))) :
    lx'.cursor.rest.length < lx.cursor.rest.length := by
  induction lx using nextToken.induct with
  | case1 lx hc hb f hf =>
    rw [nextToken, if_pos hc, dif_pos hb] at h
    split at h
    · cases h
    · next h₁ => rw [hf] at h₁; cases h₁
  | case2 lx hc hb lx₁ h₁ ih =>
    rw [nextToken, if_pos hc, dif_pos hb] at h
    split at h
    · cases h
    · next lx₂ h₂ =>
      rw [h₁] at h₂
      cases h₂
      exact Nat.lt_trans (ih h) (rest_length_skipBlank_lt hb h₁)
  | case3 lx hc hb hs f hf =>
    rw [nextToken, if_pos hc, dif_neg hb, dif_pos hs] at h
    split at h
    · cases h
    · next h₁ => rw [hf] at h₁; cases h₁
  | case4 lx hc hb hs lx₁ h₁ ih =>
    rw [nextToken, if_pos hc, dif_neg hb, dif_pos hs] at h
    split at h
    · cases h
    · next lx₂ h₂ =>
      rw [h₁] at h₂
      cases h₂
      exact Nat.lt_trans (ih h) (rest_length_skipComment_lt hs h₁)
  | case5 lx hc hb hs f hf =>
    rw [nextToken, if_pos hc, dif_neg hb, dif_neg hs, hf] at h
    cases h
  | case6 lx hc hb hs lx₁ r hr =>
    rw [nextToken, if_pos hc, dif_neg hb, dif_neg hs, hr] at h
    cases h
    exact lexToken_rest_lt hr
  | case7 lx hc =>
    rw [nextToken, if_neg hc] at h
    cases h

/-- The next item of the token stream, which ends for good after a lexical error. -/
def next (lx : Lexer) : Except Fault (Lexer × Option (Except LexError Token)) :=
  if lx.stopped then .ok (lx, none)
  else
    match lx.nextToken with
    | .error f => .error f
    | .ok (lx', some (.error e)) => .ok ({ lx' with stopped := true }, some (.error e))
    | .ok (lx', r) => .ok (lx', r)

theorem next_rest_lt {lx lx' : Lexer} {t : Token} (h : lx.next = .ok (lx', some (.ok t))) :
    lx'.cursor.rest.length < lx.cursor.rest.length := by
  unfold next at h
  split at h
  · cases h
  · split at h
    · cases h
    · cases h
    · cases h
      exact nextToken_rest_lt (by assumption)

/-- A step of the token stream never gives back characters. -/
theorem nextToken_rest_le {lx lx' : Lexer} {r : Option (Except LexError Token)}
    (h : lx.nextToken = .ok (lx', r)) : lx'.cursor.rest.length ≤ lx.cursor.rest.length := by
  induction lx using nextToken.induct with
  | case1 lx hc hb f hf =>
    rw [nextToken, if_pos hc, dif_pos hb] at h
    split at h
    · cases h
    · next h₁ => rw [hf] at h₁; cases h₁
  | case2 lx hc hb lx₁ h₁ ih =>
    rw [nextToken, if_pos hc, dif_pos hb] at h
    split at h
    · cases h
    · next lx₂ h₂ =>
      rw [h₁] at h₂
      cases h₂
      exact Nat.le_trans (ih h) (Nat.le_of_lt (rest_length_skipBlank_lt hb h₁))
  | case3 lx hc hb hs f hf =>
    rw [nextToken, if_pos hc, dif_neg hb, dif_pos hs] at h
    split at h
    · cases h
    · next h₁ => rw [hf] at h₁; cases h₁
  | case4 lx hc hb hs lx₁ h₁ ih =>
    rw [nextToken, if_pos hc, dif_neg hb, dif_pos hs] at h
    split at h
    · cases h
    · next lx₂ h₂ =>
      rw [h₁] at h₂
      cases h₂
      exact Nat.le_trans (ih h) (Nat.le_of_lt (rest_length_skipComment_lt hs h₁))
  | case5 lx hc hb hs f hf =>
    rw [nextToken, if_pos hc, dif_neg hb, dif_neg hs, hf] at h
    cases h
  | case6 lx hc hb hs lx₁ r hr =>
    rw [nextToken, if_pos hc, dif_neg hb, dif_neg hs, hr] at h
    cases h
    exact lexToken_rest_le hr
  | case7 lx hc =>
    rw [nextToken, if_neg hc] at h
    cases h
    exact Nat.le_refl _

/-- The stream yields something only while it has not ended. -/
theorem stopped_of_next_some {lx lx' : Lexer} {r : Except LexError Token}
    (h : lx.next = .ok (lx', some r)) : lx.stopped = false := by
  unfold next at h
  split at h
  · cases h
  · next hs => simpa using hs

/-- After an error the stream has ended, and no character was given back. -/
theorem next_error {lx lx' : Lexer} {e : LexError} (h : lx.next = .ok (lx', some (.error e))) :
    lx'.stopped = true ∧ lx'.cursor.rest.length ≤ lx.cursor.rest.length := by
  unfold next at h
  split at h
  · cases h
  · split at h
    · cases h
    · next lx₁ e₁ h₁ =>
      cases h
      have hle := nextToken_rest_le h₁
      exact ⟨rfl, hle⟩
    · cases h
      simp_all

/-- Pulls items from a stream until it yields nothing; gives every item, the last one
included, and the lexer after them. A fault ends the pulling too. -/
def drain (lx : Lexer) : List (Except Fault (Option (Except LexError Token))) × Lexer :=
  match _h : lx.next with
  | .error f => ([.error f], lx)
  | .ok (lx', none) => ([.ok none], lx')
  | .ok (lx', some r) =>
    let rest := drain lx'
    (.ok (some r) :: rest.1, rest.2)
termination_by 2 * lx.cursor.rest.length + (if lx.stopped then 0 else 1)
decreasing_by
  have hs := stopped_of_next_some _h
  rw [hs]
  cases r with
  | error e =>
    obtain ⟨hs', hle⟩ := next_error _h
    rw [hs']
    simp only [Bool.false_eq_true, if_false, if_true]
    omega
  | ok t =>
    have hlt := next_rest_lt _h
    split <;> omega

/-- The tokens of the rest of a stream after those already collected (latest first), or
the first lexical error. -/
def collect (lx : Lexer) (acc : List Token) : Except Fault (Except LexError (List Token)) :=
  match _h : lx.next with
  | .error f => .error f
  | .ok (_, none) => .ok (.ok acc.reverse)
  | .ok (_, some (.error e)) => .ok (.error e)
  | .ok (lx', some (.ok t)) => collect lx' (t :: acc)
termination_by lx.cursor.rest.length
decreasing_by exact next_rest_lt _h

end Lexer

/-- The tokens of a text, or its first lexical error. -/
def lex (s : String) : Except Fault (Except LexError (List Token)) :=
  (Lexer.start s).collect []

end Lexis
