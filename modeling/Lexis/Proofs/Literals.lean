import Lexis.Proofs.Relex
import Lexis.Proofs.Failure

/-!
The scanners of character and string literals, entered at their opening quote from any state of
the lexer: with characters pending or not, after an operand or not. On a cursor that represents its
text, a scan that completes reads exactly one word of its language and emits it after the text that
was pending (`Lexer.Emits`); a scan that fails reports its error where it stopped and keeps every
character it read pending, with no token emitted (`Lexer.Consumed`).

Where a scan stops is read off the text. `CharacterStop` and `StringStop` list the ways in which a
literal goes wrong, each with its offset; a string scan stops exactly where no string literal can go
on (`stringStop_longest`), and it never reports an invalid character, since every character is a
body character, a closing quote, a backslash or a line break. Main statements: `lexCharacter_spec`
and `lexString_spec`.
-/

namespace Lexis

open Grammar Chars

namespace Lexer

/-- `lx'` comes from `lx` by reading `k` more characters into the pending run: no token is emitted
and both flags are kept. -/
structure Consumed (s : String) (lx lx' : Lexer) (k : Nat) : Prop where
  represents : lx'.cursor.Represents s
  index_eq : lx'.cursor.index = lx.cursor.index + k
  pending_eq : lx'.cursor.pending = lx.cursor.pending + k
  afterOperand_eq : lx'.afterOperand = lx.afterOperand
  stopped_eq : lx'.stopped = lx.stopped

/-- `lx'` comes from `lx` by reading the word `w` and emitting it, after the text that was pending,
as the token `t`. -/
structure Emits (s : String) (lx lx' : Lexer) (w : List Char) (t : Token) : Prop where
  text_eq : t.text = lx.cursor.pendingText ++ String.ofList w
  start_eq : t.span.start = lx.cursor.index - lx.cursor.pending
  stop_eq : t.span.stop = lx.cursor.index + w.length
  represents : lx'.cursor.Represents s
  index_eq : lx'.cursor.index = lx.cursor.index + w.length
  pending_eq : lx'.cursor.pending = 0
  afterOperand_eq : lx'.afterOperand = t.endsOperand
  stopped_eq : lx'.stopped = lx.stopped

section Finish

variable {s : String} {lx : Lexer}

theorem consumed_skip (h : lx.cursor.Represents s) {k : Nat} (hk : lx.cursor.index + k ≤ s.length) :
    Consumed s lx (lx.skip k) k :=
  have ⟨hrep, hidx, hpend⟩ := h.advance hk
  ⟨hrep, hidx, hpend, rfl, rfl⟩

theorem finish_of_error (lx : Lexer) {e : Extent TokenKind} {k : LexErrorKind}
    (hk : e.outcome = .error k) :
    lx.finish e = .ok (lx.skip e.length, .error ⟨k, (lx.skip e.length).cursor.index⟩) := by
  simp only [finish, hk]
  rfl

/-- The characters pending after `m` more are read: the old pending run, then those `m`. -/
theorem take_pending_add (h : lx.cursor.Represents s) (m : Nat) :
    (s.toList.drop (lx.cursor.index - lx.cursor.pending)).take (lx.cursor.pending + m) =
      (s.toList.drop (lx.cursor.index - lx.cursor.pending)).take lx.cursor.pending ++
        (s.toList.drop lx.cursor.index).take m := by
  have hle := h.pending_le
  rw [List.take_add, List.drop_drop, Nat.sub_add_cancel hle]

/-- A scan that completes after reading `e.length` characters emits them, after the text that was
pending, as a token of its kind. -/
theorem finish_emits (h : lx.cursor.Represents s) {e : Extent TokenKind} {k : TokenKind}
    (hk : e.outcome = .ok k) (hpos : 0 < e.length) (hle : lx.cursor.index + e.length ≤ s.length) :
    ∃ lx' t, lx.finish e = .ok (lx', .ok t) ∧ t.kind = k ∧
      Emits s lx lx' ((s.toList.drop lx.cursor.index).take e.length) t := by
  have hlen : ((s.toList.drop lx.cursor.index).take e.length).length = e.length :=
    List.length_take_of_le (by rw [List.length_drop, String.length_toList]; omega)
  have hpend_le := h.pending_le
  obtain ⟨hrep, hidx, hpend⟩ := h.advance hle
  generalize hc : lx.cursor.advance e.length = c at hrep hidx hpend
  obtain ⟨hemit, hrep'⟩ := hrep.emit (by omega)
  have hstart : c.index - c.pending = lx.cursor.index - lx.cursor.pending := by omega
  -- the emitted text is the pending text followed by the characters just read
  have htext : String.ofList ((s.toList.drop (c.index - c.pending)).take c.pending) =
      lx.cursor.pendingText ++ String.ofList ((s.toList.drop lx.cursor.index).take e.length) := by
    rw [hstart, hpend, take_pending_add h, String.ofList_append, ← h.pendingText_eq]
  have hspan : c.pendingSpan = ⟨lx.cursor.index - lx.cursor.pending, lx.cursor.index + e.length,
      Nat.le_trans (Nat.sub_le _ _) (Nat.le_add_right _ _)⟩ := by
    simp only [Cursor.pendingSpan, Span.mk.injEq]
    exact ⟨hstart, hidx⟩
  set t : Token :=
    ⟨k, lx.cursor.pendingText ++ String.ofList ((s.toList.drop lx.cursor.index).take e.length),
      ⟨lx.cursor.index - lx.cursor.pending, lx.cursor.index + e.length,
        Nat.le_trans (Nat.sub_le _ _) (Nat.le_add_right _ _)⟩⟩ with ht
  refine ⟨⟨{ c with pending := 0, pendingStart := c.position }, t.endsOperand, lx.stopped⟩, t, ?_, rfl,
    ⟨rfl, rfl, by rw [hlen], hrep', by rw [hidx, hlen], rfl, rfl, rfl⟩⟩
  rw [ht]
  simp only [finish, hk, skip, hc, emitToken, hemit, htext, hspan]

end Finish

end Lexer

/-! ### String bodies and the texts that open a string literal -/

namespace Grammar

theorem StringBody.append {b b' : List Char} (hb : StringBody b) (hb' : StringBody b') :
    StringBody (b ++ b') := by
  induction hb with
  | nil => exact hb'
  | plain hq hbs hl _ ih => exact .plain hq hbs hl ih
  | escape hx _ ih => exact .escape hx ih

/-- A body read at the front of a longer body that ends in a double quote leaves again a body and
that quote: the bodies are read the same way, character or escape at a time. -/
theorem StringBody.rest_of_append {b body u : List Char} (hb : StringBody b)
    (hbody : StringBody body) (h : b ++ u = body ++ ['"']) :
    ∃ body', StringBody body' ∧ u = body' ++ ['"'] := by
  induction hb generalizing body with
  | nil => exact ⟨body, hbody, h⟩
  | plain hq hbs _ _ ih =>
    cases hbody with
    | nil => simp at h; exact absurd h.1 hq
    | plain _ _ _ hr => simp at h; exact ih hr h.2
    | escape _ _ => simp at h; exact absurd h.1 hbs
  | escape _ _ ih =>
    cases hbody with
    | nil => simp at h
    | plain _ hbs _ _ => simp at h; exact absurd h.1.symm hbs
    | escape _ hr => simp at h; exact ih hr h.2

/-- Text that some string literal starts with. -/
def OpensString (u : List Char) : Prop := ∃ v, IsString (u ++ v)

theorem OpensString.of_append {u u' : List Char} (h : OpensString (u ++ u')) : OpensString u :=
  have ⟨v, hv⟩ := h
  ⟨u' ++ v, by rwa [← List.append_assoc]⟩

theorem opensString_body {b : List Char} (hb : StringBody b) : OpensString ('"' :: b) :=
  ⟨['"'], b, rfl, hb⟩

/-- After a body, a string literal goes on as one that starts right there. -/
theorem OpensString.skip_body {b u : List Char} (hb : StringBody b)
    (h : OpensString ('"' :: (b ++ u))) : OpensString ('"' :: u) := by
  obtain ⟨v, body, heq, hbody⟩ := h
  have hrest : b ++ (u ++ v) = body ++ ['"'] := by simpa using heq
  obtain ⟨body', hbody', hu⟩ := hb.rest_of_append hbody hrest
  exact ⟨v, body', by rw [List.cons_append, hu], hbody'⟩

theorem not_opensString_lineBreak {c : Char} (hc : IsLineBreak c) (w : List Char) :
    ¬OpensString ('"' :: c :: w) := by
  rintro ⟨v, body, heq, hbody⟩
  have hbreak : c :: (w ++ v) = body ++ ['"'] := by simpa using heq
  cases hbody with
  | nil => simp at hbreak; simp [hbreak.1, IsLineBreak] at hc
  | plain _ _ hl _ => simp at hbreak; exact hl (hbreak.1 ▸ hc)
  | escape _ _ => simp at hbreak; simp [hbreak.1, IsLineBreak] at hc

theorem not_opensString_badEscape {x : Char} (hx : ¬IsEscapeLetter x) (w : List Char) :
    ¬OpensString ('"' :: '\\' :: x :: w) := by
  rintro ⟨v, body, heq, hbody⟩
  have hescape : '\\' :: x :: (w ++ v) = body ++ ['"'] := by simpa using heq
  cases hbody with
  | nil => simp at hescape
  | plain _ hbs _ _ => simp at hescape; exact hbs hescape.1.symm
  | escape hy _ => simp at hescape; exact hx (hescape.1 ▸ hy)

theorem PrefixFree.eq_of_prefix {L : List Char → Prop} (hL : PrefixFree L) {u u' R : List Char}
    (hu : L u) (hu' : L u') (hp : u <+: R) (hp' : u' <+: R) : u = u' := by
  rcases Nat.le_total u.length u'.length with hle | hle
  · obtain ⟨v, rfl⟩ := List.prefix_of_prefix_length_le hp hp' hle
    rw [hL u v hu hu', List.append_nil]
  · obtain ⟨v, rfl⟩ := List.prefix_of_prefix_length_le hp' hp hle
    rw [hL u' v hu' hu, List.append_nil]

/-- In a language closed under prefixes, a prefix that the next character would take out of the
language is the longest one. -/
theorem LongestPrefix.of_closed {L : List Char → Prop} {R : List Char} {n : Nat}
    (hclosed : ∀ u u', L (u ++ u') → L u) (hn : n ≤ R.length) (hmem : L (R.take n))
    (hnext : n < R.length → ¬L (R.take (n + 1))) : LongestPrefix L R n := by
  refine ⟨hn, hmem, fun m hm hL => Nat.le_of_not_lt fun hlt => hnext (by omega) ?_⟩
  have hsplit : R.take m = R.take (n + 1) ++ (R.drop (n + 1)).take (m - (n + 1)) := by
    rw [← List.take_add, Nat.add_sub_cancel' hlt]
  exact hclosed _ _ (hsplit ▸ hL)

end Grammar

theorem exists_drop_eq_cons_of_getElem {l : List Char} {i : Nat} {x : Char} (h : l[i]? = some x) :
    ∃ r, l.drop i = x :: r :=
  List.head?_eq_some_iff.mp (List.head?_drop ▸ h)

/-! ### Character literals -/

/-- How a character literal scan at a quote at offset `i` of `s` fails: the text ends after the
quote, or a quote or a line break follows it, at `i + 1`; a backslash follows it that no escape
letter follows, at `i + 2`; or a body character or an escape follows it without a closing quote,
at `i + 2` or `i + 3`. -/
inductive CharacterStop (s : List Char) (i : Nat) : LexError → Prop
  | ended : s.drop i = ['\''] → CharacterStop s i ⟨.invalidCharacterLiteral, i + 1⟩
  | badBody {c : Char} {v : List Char} : s.drop i = '\'' :: c :: v → c = '\'' ∨ IsLineBreak c →
      CharacterStop s i ⟨.invalidCharacterLiteral, i + 1⟩
  | badEscape {v : List Char} : s.drop i = '\'' :: '\\' :: v → (∀ x ∈ v.head?, ¬IsEscapeLetter x) →
      CharacterStop s i ⟨.invalidEscape, i + 2⟩
  | unclosed {x : Char} {v : List Char} : s.drop i = '\'' :: x :: v → x ≠ '\'' → x ≠ '\\' →
      ¬IsLineBreak x → (∀ y ∈ v.head?, y ≠ '\'') →
      CharacterStop s i ⟨.unterminatedCharacterLiteral, i + 2⟩
  | unclosedEscape {x : Char} {v : List Char} : s.drop i = '\'' :: '\\' :: x :: v →
      IsEscapeLetter x → (∀ y ∈ v.head?, y ≠ '\'') →
      CharacterStop s i ⟨.unterminatedCharacterLiteral, i + 3⟩

namespace Extent

theorem closeCharacter_unclosed (n : Nat) {v : List Char} (hv : ∀ y ∈ v.head?, y ≠ '\'') :
    closeCharacter n v = ⟨n, .error .unterminatedCharacterLiteral⟩ := by
  cases v with
  | nil => rfl
  | cons y v =>
    have hy : isSingleQuote y = false := by simpa [isSingleQuote] using hv y rfl
    simp [closeCharacter, hy]

end Extent

namespace CharacterStop

variable {s : List Char} {i : Nat} {e : LexError}

theorem offset_le (h : CharacterStop s i e) : e.offset ≤ s.length := by
  have reach : ∀ {c : Char} {w : List Char}, s.drop i = c :: w → i + (w.length + 1) ≤ s.length := by
    intro c w hw
    have hlen := congrArg List.length hw
    rw [List.length_drop, List.length_cons] at hlen
    omega
  cases h with
  | ended hs => exact reach hs
  | badBody hs _ =>
    have := reach hs
    simp only [List.length_cons] at this
    dsimp only
    omega
  | badEscape hs _ =>
    have := reach hs
    simp only [List.length_cons] at this
    dsimp only
    omega
  | unclosed hs _ _ _ _ =>
    have := reach hs
    simp only [List.length_cons] at this
    dsimp only
    omega
  | unclosedEscape hs _ _ =>
    have := reach hs
    simp only [List.length_cons] at this
    dsimp only
    omega

/-- The scan at the quote reads up to the error, and fails there with its kind. -/
theorem character_eq (h : CharacterStop s i e) :
    Extent.character (s.drop i) = some ⟨e.offset - i, .error e.kind⟩ := by
  have hquote : isSingleQuote '\'' = true := rfl
  cases h with
  | ended hs => simp [hs, Extent.character, Extent.characterBody, Extent.after, hquote]
  | @badBody c v hs hc =>
    have hb : isBackslash c = false := by
      rcases hc with rfl | rfl | rfl <;> rfl
    have hp : isCharacterBody c = false := by
      rcases hc with rfl | rfl | rfl <;> rfl
    simp [hs, Extent.character, Extent.characterBody, Extent.after, hquote, hb, hp]
  | @badEscape v hs hv =>
    rw [hs]
    cases v with
    | nil => simp [Extent.character, Extent.characterBody, Extent.after, hquote, isBackslash]
    | cons x v =>
      have hx : isEscapeLetter x = false :=
        Bool.eq_false_iff.mpr fun hx => hv x rfl ((isEscapeLetter_iff x).mp hx)
      simp [Extent.character, Extent.characterBody, Extent.after, hquote, isBackslash, hx]
  | @unclosed x v hs hq hb hl hv =>
    have hb' : isBackslash x = false := by simpa [isBackslash] using hb
    have hp : isCharacterBody x = true := (isCharacterBody_iff x).mpr ⟨hq, hb, hl⟩
    have hbody : Extent.characterBody (x :: v) = Extent.closeCharacter 1 v := by
      cases v <;> simp [Extent.characterBody, hb', hp]
    simp [hs, Extent.character, hquote, hbody, Extent.closeCharacter_unclosed 1 hv, Extent.after]
  | @unclosedEscape x v hs hx hv =>
    have hesc : isEscapeLetter x = true := (isEscapeLetter_iff x).mpr hx
    simp [hs, Extent.character, Extent.characterBody, hquote, isBackslash, hesc,
      Extent.closeCharacter_unclosed 2 hv, Extent.after]

end CharacterStop

theorem characterStop_of_not_word {s : List Char} {i : Nat} {r : List Char}
    (hs : s.drop i = '\'' :: r) (hno : ¬∃ w, IsCharacter w ∧ w <+: s.drop i) :
    ∃ e, CharacterStop s i e := by
  -- a closing quote after a body character or an escape would make a word
  have hclosed : ∀ body v, ((∃ x, body = [x] ∧ x ≠ '\'' ∧ x ≠ '\\' ∧ ¬IsLineBreak x) ∨ IsEscape body) →
      r = body ++ v → ∀ y ∈ v.head?, y ≠ '\'' := by
    rintro body v hbody rfl y hy rfl
    obtain ⟨v', rfl⟩ : ∃ v', v = '\'' :: v' := by
      cases v with
      | nil => simp at hy
      | cons z v' => simp at hy; exact ⟨v', by rw [hy]⟩
    exact hno ⟨'\'' :: (body ++ ['\'']), ⟨body, rfl, hbody⟩, ⟨v', by simp [hs]⟩⟩
  match r, hs, hclosed with
  | [], hs, _ => exact ⟨_, .ended hs⟩
  | c :: v, hs, hclosed =>
    by_cases hc : c = '\\'
    · subst hc
      cases v with
      | nil => exact ⟨_, .badEscape hs (by simp)⟩
      | cons x v =>
        by_cases hx : IsEscapeLetter x
        · exact ⟨_, .unclosedEscape hs hx (hclosed ['\\', x] v (.inr ⟨x, rfl, hx⟩) rfl)⟩
        · exact ⟨_, .badEscape hs (by simpa using hx)⟩
    · by_cases hbad : c = '\'' ∨ IsLineBreak c
      · exact ⟨_, .badBody hs hbad⟩
      · have hq : c ≠ '\'' := fun h => hbad (.inl h)
        have hl : ¬IsLineBreak c := fun h => hbad (.inr h)
        exact ⟨_, .unclosed hs hq hc hl (hclosed [c] v (.inl ⟨c, rfl, hq, hc, hl⟩) rfl)⟩

/-! ### The character scanner -/

namespace Lexer

variable {s : String} {lx : Lexer}

theorem lexCharacter_of_word (h : lx.cursor.Represents s) {w : List Char} (hw : IsCharacter w)
    (hpre : w <+: s.toList.drop lx.cursor.index) :
    ∃ lx' t, lx.lexCharacter = .ok (lx', .ok t) ∧ t.kind = .character ∧ Emits s lx lx' w t := by
  obtain ⟨v, hv⟩ := hpre
  have hext : Extent.character lx.cursor.rest = some ⟨w.length, .ok .character⟩ := by
    rw [h.rest_eq, ← hv]
    exact Extent.character_append hw
  have hpos : 0 < w.length := by
    obtain ⟨body, rfl, -⟩ := hw
    simp
  have hle : lx.cursor.index + w.length ≤ s.length := by
    have hlen := congrArg List.length hv
    simp only [List.length_append, List.length_drop, String.length_toList] at hlen
    omega
  obtain ⟨lx', t, hfin, hkind, hemits⟩ := finish_emits h
    (show (⟨w.length, .ok .character⟩ : Extent TokenKind).outcome = .ok .character from rfl) hpos hle
  rw [← hv, List.take_left' rfl] at hemits
  exact ⟨lx', t, by rw [lexCharacter, hext]; exact hfin, hkind, hemits⟩

theorem word_of_lexCharacter (h : lx.cursor.Represents s) {lx' : Lexer} {t : Token}
    (hok : lx.lexCharacter = .ok (lx', .ok t)) :
    ∃ w, IsCharacter w ∧ w <+: s.toList.drop lx.cursor.index := by
  unfold lexCharacter at hok
  split at hok
  · cases hok
  · next e he =>
    obtain ⟨⟨k, hk⟩, -⟩ := finish_token hok
    obtain ⟨-, hlong⟩ := Extent.character_longest he hk
    rw [h.rest_eq] at hlong
    exact ⟨_, hlong.mem, List.take_prefix _ _⟩

theorem lexCharacter_of_stop (h : lx.cursor.Represents s) {e : LexError}
    (hstop : CharacterStop s.toList lx.cursor.index e) :
    lx.lexCharacter = .ok (lx.skip (e.offset - lx.cursor.index), .error e) ∧
      Consumed s lx (lx.skip (e.offset - lx.cursor.index)) (e.offset - lx.cursor.index) := by
  have hle := hstop.offset_le
  have hge : lx.cursor.index ≤ e.offset := by cases hstop <;> (dsimp only; omega)
  rw [String.length_toList] at hle
  have hcons := consumed_skip h (show lx.cursor.index + (e.offset - lx.cursor.index) ≤ s.length by omega)
  refine ⟨?_, hcons⟩
  rw [lexCharacter, h.rest_eq, hstop.character_eq]
  simp only
  rw [finish_of_error lx rfl, hcons.index_eq, Nat.add_sub_cancel' hge]

end Lexer

open Lexer in
/-- The character literal scanner, from any state of the lexer whose cursor represents its text
and stands at a quote. The scan completes exactly when a character literal starts there, and then
reads exactly it and emits it after the text that was pending. Otherwise the literal has no body, a
bad escape or no closing quote, and the scan fails at the offset each of these gives, with no token,
the flag of an operand before it kept, and all it read left pending. -/
theorem lexCharacter_spec {s : String} {lx : Lexer} (h : lx.cursor.Represents s)
    (hq : s.toList[lx.cursor.index]? = some '\'') :
    ((∃ lx' t, lx.lexCharacter = .ok (lx', .ok t)) ↔
        ∃ w, IsCharacter w ∧ w <+: s.toList.drop lx.cursor.index) ∧
      (∀ w, IsCharacter w → w <+: s.toList.drop lx.cursor.index →
        ∃ lx' t, lx.lexCharacter = .ok (lx', .ok t) ∧ t.kind = .character ∧ Emits s lx lx' w t) ∧
      ((¬∃ w, IsCharacter w ∧ w <+: s.toList.drop lx.cursor.index) →
        ∃ e, CharacterStop s.toList lx.cursor.index e) ∧
      ∀ e, CharacterStop s.toList lx.cursor.index e →
        lx.lexCharacter = .ok (lx.skip (e.offset - lx.cursor.index), .error e) ∧
        Consumed s lx (lx.skip (e.offset - lx.cursor.index)) (e.offset - lx.cursor.index) := by
  obtain ⟨r, hr⟩ := exists_drop_eq_cons_of_getElem hq
  refine ⟨⟨fun ⟨_, _, hok⟩ => word_of_lexCharacter h hok,
      fun ⟨w, hw, hpre⟩ => (lexCharacter_of_word h hw hpre).elim fun lx' ⟨t, hok, _⟩ => ⟨lx', t, hok⟩⟩,
    fun _ hw hpre => lexCharacter_of_word h hw hpre, characterStop_of_not_word hr,
    fun _ hstop => lexCharacter_of_stop h hstop⟩

/-- Two identifier characters are pending when the scan meets `'\\q`: the escape is bad, and the
scan fails right after the backslash, keeping all four characters pending. -/
theorem lexCharacter_spec_pending :
    ((Lexer.start "ab'\\q").skip 2).cursor.Represents "ab'\\q" ∧
      "ab'\\q".toList[((Lexer.start "ab'\\q").skip 2).cursor.index]? = some '\'' ∧
      (((∃ lx' t, ((Lexer.start "ab'\\q").skip 2).lexCharacter = .ok (lx', .ok t)) ↔
          ∃ w, IsCharacter w ∧
            w <+: "ab'\\q".toList.drop ((Lexer.start "ab'\\q").skip 2).cursor.index) ∧
        (∀ w, IsCharacter w →
          w <+: "ab'\\q".toList.drop ((Lexer.start "ab'\\q").skip 2).cursor.index →
          ∃ lx' t, ((Lexer.start "ab'\\q").skip 2).lexCharacter = .ok (lx', .ok t) ∧
            t.kind = .character ∧ Lexer.Emits "ab'\\q" ((Lexer.start "ab'\\q").skip 2) lx' w t) ∧
        ((¬∃ w, IsCharacter w ∧
            w <+: "ab'\\q".toList.drop ((Lexer.start "ab'\\q").skip 2).cursor.index) →
          ∃ e, CharacterStop "ab'\\q".toList ((Lexer.start "ab'\\q").skip 2).cursor.index e) ∧
        ∀ e, CharacterStop "ab'\\q".toList ((Lexer.start "ab'\\q").skip 2).cursor.index e →
          ((Lexer.start "ab'\\q").skip 2).lexCharacter =
              .ok (((Lexer.start "ab'\\q").skip 2).skip
                (e.offset - ((Lexer.start "ab'\\q").skip 2).cursor.index), .error e) ∧
            Lexer.Consumed "ab'\\q" ((Lexer.start "ab'\\q").skip 2)
              (((Lexer.start "ab'\\q").skip 2).skip
                (e.offset - ((Lexer.start "ab'\\q").skip 2).cursor.index))
              (e.offset - ((Lexer.start "ab'\\q").skip 2).cursor.index)) :=
  have h : ((Lexer.start "ab'\\q").skip 2).cursor.Represents "ab'\\q" :=
    ((Cursor.represents_start "ab'\\q").advance (by decide)).1
  have hq : "ab'\\q".toList[((Lexer.start "ab'\\q").skip 2).cursor.index]? = some '\'' := by
    decide
  ⟨h, hq, lexCharacter_spec h hq⟩

/-! ### How far a string scan reads -/

namespace Extent

theorem after_after {α : Type} (e : Extent α) (a b : Nat) : (e.after a).after b = e.after (a + b) := by
  simp only [after, Nat.add_assoc]

/-- Over a string body the scan reads on, one character or escape at a time. -/
theorem stringBody_body_append {b : List Char} (hb : StringBody b) (u : List Char) :
    stringBody (b ++ u) = (stringBody u).after b.length := by
  induction hb with
  | nil => rfl
  | @plain x r hq hbs hl _ ih =>
    have hx : isStringBody x = true := (isStringBody_iff x).mpr ⟨hq, hbs, hl⟩
    have hq' : isDoubleQuote x = false := by simpa [isDoubleQuote] using hq
    have hbs' : isBackslash x = false := by simpa [isBackslash] using hbs
    rw [List.cons_append, stringBody_cons]
    simp only [hq', hbs', hx, Bool.false_eq_true, if_false, if_true, ih, after_after,
      List.length_cons]
  | @escape x r hx _ ih =>
    have hesc : isEscapeLetter x = true := (isEscapeLetter_iff x).mpr hx
    rw [List.cons_append, List.cons_append, stringBody_cons]
    simp only [isDoubleQuote, isBackslash, hesc, ih, after_after, List.length_cons]
    simp

theorem stringBody_lineBreak {c : Char} (hc : IsLineBreak c) (v : List Char) :
    stringBody (c :: v) = ⟨0, .error .newlineInStringLiteral⟩ := by
  rw [stringBody_cons]
  rcases hc with rfl | rfl <;> simp [isDoubleQuote, isBackslash, isStringBody, isLineBreak]

theorem stringBody_badEscape {v : List Char} (hv : ∀ x ∈ v.head?, ¬IsEscapeLetter x) :
    stringBody ('\\' :: v) = ⟨1, .error .invalidEscape⟩ := by
  cases v with
  | nil => simp [stringBody_cons, isDoubleQuote, isBackslash]
  | cons x v =>
    have hx : isEscapeLetter x = false :=
      Bool.eq_false_iff.mpr fun h => hv x rfl ((isEscapeLetter_iff x).mp h)
    simp [stringBody_cons, isDoubleQuote, isBackslash, hx]

theorem string_quote (r : List Char) : string ('"' :: r) = (stringBody r).after 1 := by
  simp [string, isDoubleQuote]

end Extent

/-- How a string scan at a double quote at offset `i` of `s` fails. The longest string body `b`
after the quote is followed by the end of the text, by a line break, or by a backslash that no
escape letter follows; the error stands at the end of the text, at the line break, or right after
the backslash. -/
inductive StringStop (s : List Char) (i : Nat) : LexError → Prop
  | unterminated {b : List Char} : StringBody b → s.drop i = '"' :: b →
      StringStop s i ⟨.unterminatedStringLiteral, s.length⟩
  | lineBreak {b v : List Char} {c : Char} : StringBody b → IsLineBreak c →
      s.drop i = '"' :: (b ++ c :: v) → StringStop s i ⟨.newlineInStringLiteral, i + 1 + b.length⟩
  | badEscape {b v : List Char} : StringBody b → (∀ x ∈ v.head?, ¬IsEscapeLetter x) →
      s.drop i = '"' :: (b ++ '\\' :: v) → StringStop s i ⟨.invalidEscape, i + 2 + b.length⟩

namespace StringStop

variable {s : List Char} {i : Nat} {e : LexError}

theorem offset_bounds (h : StringStop s i e) : i < e.offset ∧ e.offset ≤ s.length := by
  cases h with
  | unterminated _ hs =>
    have hlen := congrArg List.length hs
    simp only [List.length_drop, List.length_cons] at hlen
    exact ⟨by dsimp only; omega, Nat.le_refl _⟩
  | lineBreak _ _ hs =>
    have hlen := congrArg List.length hs
    simp only [List.length_drop, List.length_cons, List.length_append] at hlen
    exact ⟨by dsimp only; omega, by dsimp only; omega⟩
  | badEscape _ _ hs =>
    have hlen := congrArg List.length hs
    simp only [List.length_drop, List.length_cons, List.length_append] at hlen
    exact ⟨by dsimp only; omega, by dsimp only; omega⟩

/-- The scan at the double quote reads up to the error, and fails there with its kind. -/
theorem string_eq (h : StringStop s i e) :
    Extent.string (s.drop i) = ⟨e.offset - i, .error e.kind⟩ := by
  have hbounds := h.offset_bounds
  cases h with
  | @unterminated b hb hs =>
    have hlen := congrArg List.length hs
    simp only [List.length_drop, List.length_cons] at hlen
    rw [hs, Extent.string_quote, ← List.append_nil b, Extent.stringBody_body_append hb]
    simp only [Extent.stringBody, Extent.after]
    congr 1
    omega
  | @lineBreak b v c hb hc hs =>
    rw [hs, Extent.string_quote, Extent.stringBody_body_append hb,
      Extent.stringBody_lineBreak hc]
    simp only [Extent.after]
    congr 1
    omega
  | @badEscape b v hb hv hs =>
    rw [hs, Extent.string_quote, Extent.stringBody_body_append hb,
      Extent.stringBody_badEscape hv]
    simp only [Extent.after]
    congr 1
    omega

/-- A failing string scan stops exactly where no string literal can go on: the text up to the error
starts a string literal, and one more character would not. -/
theorem longest (h : StringStop s i e) : LongestPrefix OpensString (s.drop i) (e.offset - i) := by
  have hclosed : ∀ u u', OpensString (u ++ u') → OpensString u := fun _ _ h => h.of_append
  cases h with
  | @unterminated b hb hs =>
    have hlen := congrArg List.length hs
    simp only [List.length_drop, List.length_cons] at hlen
    refine .of_closed hclosed (by rw [List.length_drop]) ?_ (fun hlt => ?_)
    · rw [List.take_of_length_le (by rw [List.length_drop]), hs]
      exact opensString_body hb
    · rw [List.length_drop] at hlt
      dsimp only at hlt
      omega
  | @lineBreak b v c hb hc hs =>
    have hlen := congrArg List.length hs
    simp only [List.length_drop, List.length_cons, List.length_append] at hlen
    have hn : i + 1 + b.length - i = b.length + 1 := by omega
    refine .of_closed hclosed (by rw [hn, hs]; simp) ?_ (fun _ hopen => ?_)
    · rw [hn, hs, List.take_succ_cons, List.take_left' rfl]
      exact opensString_body hb
    · rw [hn, hs, List.take_succ_cons, List.take_add_one, List.take_left' rfl] at hopen
      have hmid : (b ++ c :: v)[b.length]? = some c := by simp
      rw [hmid, Option.toList_some] at hopen
      exact not_opensString_lineBreak hc [] (hopen.skip_body hb)
  | @badEscape b v hb hv hs =>
    have hlen := congrArg List.length hs
    simp only [List.length_drop, List.length_cons, List.length_append] at hlen
    have hn : i + 2 + b.length - i = (b ++ ['\\']).length + 1 := by simp; omega
    have hsplit : s.drop i = '"' :: ((b ++ ['\\']) ++ v) := by simp [hs]
    refine .of_closed hclosed (by rw [hn, hsplit]; simp) ?_ (fun hlt hopen => ?_)
    · -- an escape letter after the backslash would go on with the literal
      rw [hn, hsplit, List.take_succ_cons, List.take_left' rfl]
      refine ⟨['n', '"'], b ++ ['\\', 'n'], by simp,
        hb.append (.escape ((isEscapeLetter_iff 'n').mp rfl) .nil)⟩
    · obtain ⟨x, v', rfl⟩ : ∃ x v', v = x :: v' := by
        cases v with
        | nil => rw [hn, hsplit] at hlt; simp at hlt
        | cons x v' => exact ⟨x, v', rfl⟩
      rw [hn, hsplit, List.take_succ_cons, List.take_add_one, List.take_left' rfl] at hopen
      have hmid : ((b ++ ['\\']) ++ x :: v')[(b ++ ['\\']).length]? = some x := by simp
      rw [hmid, Option.toList_some, List.append_assoc] at hopen
      exact not_opensString_badEscape (hv x rfl) [] (hopen.skip_body hb)

end StringStop

/-- What follows the longest string body at the front of a text: the closing double quote, nothing,
a line break, or a backslash that no escape letter follows. -/
inductive BodyStop : List Char → Prop
  | quote (v : List Char) : BodyStop ('"' :: v)
  | ended : BodyStop []
  | lineBreak {c : Char} (v : List Char) : IsLineBreak c → BodyStop (c :: v)
  | badEscape {v : List Char} : (∀ x ∈ v.head?, ¬IsEscapeLetter x) → BodyStop ('\\' :: v)

/-- Every text is a string body followed by what stops it; the four tests of the scan leave no
character over. -/
theorem exists_bodyStop (r : List Char) : ∃ b u, StringBody b ∧ BodyStop u ∧ r = b ++ u := by
  induction r using Extent.stringBody.induct with
  | case1 c r hq =>
    have hc : c = '"' := by simpa [isDoubleQuote] using hq
    exact ⟨[], c :: r, .nil, by rw [hc]; exact .quote r, rfl⟩
  | case2 c _ hb x r hx ih =>
    obtain ⟨b, u, hbody, hu, rfl⟩ := ih
    have hc : c = '\\' := by simpa [isBackslash] using hb
    refine ⟨c :: x :: b, u, ?_, hu, rfl⟩
    rw [hc]
    exact .escape ((isEscapeLetter_iff x).mp hx) hbody
  | case3 c _ hb x r hx =>
    have hc : c = '\\' := by simpa [isBackslash] using hb
    refine ⟨[], c :: x :: r, .nil, ?_, rfl⟩
    rw [hc]
    exact .badEscape fun y hy => by
      simp only [List.head?_cons, Option.mem_some_iff] at hy
      exact hy ▸ fun h => hx ((isEscapeLetter_iff x).mpr h)
  | case4 c _ hb =>
    have hc : c = '\\' := by simpa [isBackslash] using hb
    refine ⟨[], [c], .nil, ?_, rfl⟩
    rw [hc]
    exact .badEscape (by simp)
  | case5 c r _ _ hs ih =>
    obtain ⟨b, u, hbody, hu, rfl⟩ := ih
    obtain ⟨hq', hb', hl'⟩ := (isStringBody_iff c).mp hs
    exact ⟨c :: b, u, .plain hq' hb' hl' hbody, hu, rfl⟩
  | case6 c r _ _ _ hl => exact ⟨[], c :: r, .nil, .lineBreak r ((isLineBreak_iff c).mp hl), rfl⟩
  | case7 c r hq hb hs hl =>
    -- no character is left over by the four tests, so this branch is never taken
    rcases isStringBody_or c with h | h | h | h <;> simp_all
  | case8 => exact ⟨[], [], .nil, .ended, rfl⟩

theorem stringStop_of_not_word {s : List Char} {i : Nat} {r : List Char}
    (hs : s.drop i = '"' :: r) (hno : ¬∃ w, IsString w ∧ w <+: s.drop i) :
    ∃ e, StringStop s i e := by
  obtain ⟨b, u, hb, hu, rfl⟩ := exists_bodyStop r
  cases hu with
  | quote v => exact absurd ⟨'"' :: (b ++ ['"']), ⟨b, rfl, hb⟩, ⟨v, by simp [hs]⟩⟩ hno
  | ended => exact ⟨_, .unterminated hb (by simpa using hs)⟩
  | lineBreak v hc => exact ⟨_, .lineBreak hb hc hs⟩
  | badEscape hv => exact ⟨_, .badEscape hb hv hs⟩

/-! ### The string scanner -/

namespace Lexer

variable {s : String} {lx : Lexer}

theorem lexString_of_word (h : lx.cursor.Represents s) {w : List Char} (hw : IsString w)
    (hpre : w <+: s.toList.drop lx.cursor.index) :
    ∃ lx' t, lx.lexString = .ok (lx', .ok t) ∧ t.kind = .string ∧ Emits s lx lx' w t := by
  obtain ⟨v, hv⟩ := hpre
  have hext : Extent.string lx.cursor.rest = ⟨w.length, .ok .string⟩ := by
    rw [h.rest_eq, ← hv]
    exact Extent.string_append hw
  have hpos : 0 < w.length := by
    obtain ⟨body, rfl, -⟩ := hw
    simp
  have hle : lx.cursor.index + w.length ≤ s.length := by
    have hlen := congrArg List.length hv
    simp only [List.length_append, List.length_drop, String.length_toList] at hlen
    omega
  obtain ⟨lx', t, hfin, hkind, hemits⟩ :=
    finish_emits h (show (⟨w.length, .ok .string⟩ : Extent TokenKind).outcome = .ok .string from rfl)
      hpos hle
  rw [← hv, List.take_left' rfl] at hemits
  exact ⟨lx', t, by rw [lexString, hext]; exact hfin, hkind, hemits⟩

theorem word_of_lexString (h : lx.cursor.Represents s) {lx' : Lexer} {t : Token}
    (hok : lx.lexString = .ok (lx', .ok t)) :
    ∃ w, IsString w ∧ w <+: s.toList.drop lx.cursor.index := by
  obtain ⟨⟨k, hk⟩, -⟩ := finish_token hok
  obtain ⟨-, hlong⟩ := Extent.string_longest hk
  rw [h.rest_eq] at hlong
  exact ⟨_, hlong.mem, List.take_prefix _ _⟩

theorem lexString_of_stop (h : lx.cursor.Represents s) {e : LexError}
    (hstop : StringStop s.toList lx.cursor.index e) :
    lx.lexString = .ok (lx.skip (e.offset - lx.cursor.index), .error e) ∧
      Consumed s lx (lx.skip (e.offset - lx.cursor.index)) (e.offset - lx.cursor.index) := by
  obtain ⟨hlt, hle⟩ := hstop.offset_bounds
  rw [String.length_toList] at hle
  have hcons := consumed_skip h (show lx.cursor.index + (e.offset - lx.cursor.index) ≤ s.length by omega)
  refine ⟨?_, hcons⟩
  rw [lexString, h.rest_eq, hstop.string_eq, finish_of_error lx rfl, hcons.index_eq,
    Nat.add_sub_cancel' (Nat.le_of_lt hlt)]

theorem lexString_of_not_quote (h : lx.cursor.Represents s)
    (hq : s.toList[lx.cursor.index]? ≠ some '"') :
    lx.lexString = .ok (lx, .error ⟨.expectedStringStart, lx.cursor.index⟩) := by
  have hext : Extent.string lx.cursor.rest = ⟨0, .error .expectedStringStart⟩ := by
    rw [h.rest_eq]
    cases hr : s.toList.drop lx.cursor.index with
    | nil => rfl
    | cons c r =>
      have hc : c ≠ '"' := by
        rintro rfl
        rw [← List.head?_drop, hr] at hq
        exact hq rfl
      simp [Extent.string, isDoubleQuote, hc]
  rw [lexString, hext, finish_of_error lx rfl]
  rfl

/-- The string scanner never reports an invalid character: every character is a body character,
the closing quote, a backslash or a line break. -/
theorem lexString_ne_invalidStringCharacter (lx : Lexer) {lx' : Lexer} {e : LexError}
    (herr : lx.lexString = .ok (lx', .error e)) : e.kind ≠ .invalidStringCharacter := by
  obtain ⟨k, hk, rfl⟩ := finish_error herr
  show k ≠ .invalidStringCharacter
  cases hr : lx.cursor.rest with
  | nil =>
    rw [hr] at hk
    simp only [Extent.string, Except.error.injEq] at hk
    rw [← hk]
    decide
  | cons c r =>
    rw [hr] at hk
    by_cases hc : isDoubleQuote c = true
    · rw [Extent.string, if_pos hc, Extent.after_outcome] at hk
      rcases Extent.stringBody_error hk with rfl | rfl | rfl <;> decide
    · simp only [Extent.string, hc, Bool.false_eq_true, if_false, Except.error.injEq] at hk
      rw [← hk]
      decide

end Lexer

open Lexer in
/-- The string scanner, from any state of the lexer whose cursor represents its text. At a double
quote the scan completes exactly when a string literal starts there; that literal is the only one,
and the scan reads exactly it and emits it after the text that was pending. Otherwise the literal
is cut off by the end of the text, by a line break or by a bad escape, and the scan fails where no
string literal can go on, with no token and with all it read left pending. Not at a double quote
it fails at once and reads nothing. It never reports an invalid string character. -/
theorem lexString_spec {s : String} {lx : Lexer} (h : lx.cursor.Represents s) :
    (s.toList[lx.cursor.index]? = some '"' →
      ((∃ lx' t, lx.lexString = .ok (lx', .ok t)) ↔
        ∃ w, IsString w ∧ w <+: s.toList.drop lx.cursor.index) ∧
      (∀ w, IsString w → w <+: s.toList.drop lx.cursor.index →
        (∀ w', IsString w' → w' <+: s.toList.drop lx.cursor.index → w' = w) ∧
        ∃ lx' t, lx.lexString = .ok (lx', .ok t) ∧ t.kind = .string ∧ Emits s lx lx' w t) ∧
      ((¬∃ w, IsString w ∧ w <+: s.toList.drop lx.cursor.index) →
        ∃ e, StringStop s.toList lx.cursor.index e) ∧
      ∀ e, StringStop s.toList lx.cursor.index e →
        LongestPrefix OpensString (s.toList.drop lx.cursor.index) (e.offset - lx.cursor.index) ∧
        lx.lexString = .ok (lx.skip (e.offset - lx.cursor.index), .error e) ∧
        Consumed s lx (lx.skip (e.offset - lx.cursor.index)) (e.offset - lx.cursor.index)) ∧
    (s.toList[lx.cursor.index]? ≠ some '"' →
      lx.lexString = .ok (lx, .error ⟨.expectedStringStart, lx.cursor.index⟩)) ∧
    ∀ lx' e, lx.lexString = .ok (lx', .error e) → e.kind ≠ .invalidStringCharacter := by
  refine ⟨fun hq => ?_, lexString_of_not_quote h, fun _ _ herr => lexString_ne_invalidStringCharacter lx herr⟩
  obtain ⟨r, hr⟩ := exists_drop_eq_cons_of_getElem hq
  refine ⟨⟨fun ⟨_, _, hok⟩ => word_of_lexString h hok,
      fun ⟨w, hw, hpre⟩ => (lexString_of_word h hw hpre).elim fun lx' ⟨t, hok, _⟩ => ⟨lx', t, hok⟩⟩,
    fun w hw hpre => ⟨fun w' hw' hpre' => Extent.isString_prefixFree.eq_of_prefix hw' hw hpre' hpre,
      lexString_of_word h hw hpre⟩,
    stringStop_of_not_word hr, fun e hstop => ⟨hstop.longest, lexString_of_stop h hstop⟩⟩

/-- Two identifier characters are pending when the scan meets `"c\\q`: the escape is bad, and the
scan fails right after the backslash, where no string literal can go on. -/
theorem lexString_spec_pending :
    ((Lexer.start "ab\"c\\q").skip 2).cursor.Represents "ab\"c\\q" ∧
      (("ab\"c\\q".toList[((Lexer.start "ab\"c\\q").skip 2).cursor.index]? = some '"' →
        ((∃ lx' t, ((Lexer.start "ab\"c\\q").skip 2).lexString = .ok (lx', .ok t)) ↔
          ∃ w, IsString w ∧
            w <+: "ab\"c\\q".toList.drop ((Lexer.start "ab\"c\\q").skip 2).cursor.index) ∧
        (∀ w, IsString w →
          w <+: "ab\"c\\q".toList.drop ((Lexer.start "ab\"c\\q").skip 2).cursor.index →
          (∀ w', IsString w' →
            w' <+: "ab\"c\\q".toList.drop ((Lexer.start "ab\"c\\q").skip 2).cursor.index →
            w' = w) ∧
          ∃ lx' t, ((Lexer.start "ab\"c\\q").skip 2).lexString = .ok (lx', .ok t) ∧
            t.kind = .string ∧
            Lexer.Emits "ab\"c\\q" ((Lexer.start "ab\"c\\q").skip 2) lx' w t) ∧
        ((¬∃ w, IsString w ∧
            w <+: "ab\"c\\q".toList.drop ((Lexer.start "ab\"c\\q").skip 2).cursor.index) →
          ∃ e, StringStop "ab\"c\\q".toList ((Lexer.start "ab\"c\\q").skip 2).cursor.index e) ∧
        ∀ e, StringStop "ab\"c\\q".toList ((Lexer.start "ab\"c\\q").skip 2).cursor.index e →
          LongestPrefix OpensString
              ("ab\"c\\q".toList.drop ((Lexer.start "ab\"c\\q").skip 2).cursor.index)
              (e.offset - ((Lexer.start "ab\"c\\q").skip 2).cursor.index) ∧
            ((Lexer.start "ab\"c\\q").skip 2).lexString =
              .ok (((Lexer.start "ab\"c\\q").skip 2).skip
                (e.offset - ((Lexer.start "ab\"c\\q").skip 2).cursor.index), .error e) ∧
            Lexer.Consumed "ab\"c\\q" ((Lexer.start "ab\"c\\q").skip 2)
              (((Lexer.start "ab\"c\\q").skip 2).skip
                (e.offset - ((Lexer.start "ab\"c\\q").skip 2).cursor.index))
              (e.offset - ((Lexer.start "ab\"c\\q").skip 2).cursor.index)) ∧
      ("ab\"c\\q".toList[((Lexer.start "ab\"c\\q").skip 2).cursor.index]? ≠ some '"' →
        ((Lexer.start "ab\"c\\q").skip 2).lexString =
          .ok ((Lexer.start "ab\"c\\q").skip 2,
            .error ⟨.expectedStringStart, ((Lexer.start "ab\"c\\q").skip 2).cursor.index⟩)) ∧
      ∀ lx' e, ((Lexer.start "ab\"c\\q").skip 2).lexString = .ok (lx', .error e) →
        e.kind ≠ .invalidStringCharacter) :=
  have h : ((Lexer.start "ab\"c\\q").skip 2).cursor.Represents "ab\"c\\q" :=
    ((Cursor.represents_start "ab\"c\\q").advance (by decide)).1
  ⟨h, lexString_spec h⟩

end Lexis
