import Lexis.Proofs.CursorOffsets
import Lexis.Proofs.Faultless
import Lexis.Proofs.Scanners

/-!
The token stream read off the characters of its text. Between two tokens nothing is pending, so
a lexer there is fixed by its character index (`Lexer.Between`); from such a state a step of the
stream skips trivia and then reads, at some offset `j`, the extent that the scan of the token's
class finds at `j` (`Lexer.scan`), and hands out exactly those characters as the token.

`Lexes s a i ts` collects these steps: from offset `i`, after an operand or not as `a` says, the
characters of `s` lex to the tokens `ts`. The steps are stated here one by one; the whole run of
the stream is taken in `Lexis.Proofs.Pass`.
-/

namespace Lexis

open Grammar Chars

/-- Results of `lex` compare by evaluation, so that a run on a fixed text can be checked. -/
instance decidableEqExcept {ε α : Type} [DecidableEq ε] [DecidableEq α] :
    DecidableEq (Except ε α)
  | .ok a, .ok b => if h : a = b then isTrue (h ▸ rfl) else isFalse fun e => h (Except.ok.inj e)
  | .error a, .error b =>
    if h : a = b then isTrue (h ▸ rfl) else isFalse fun e => h (Except.error.inj e)
  | .ok _, .error _ => isFalse nofun
  | .error _, .ok _ => isFalse nofun

namespace Lexer

def tokenClass : TokenKind → TokenClass
  | .identifier => .identifier
  | .integer | .decimal => .number
  | .character => .character
  | .string => .string
  | .operator => .operator

/-- What the scan of a class reads when it completes a token: a token of that class, the longest
prefix ahead in the language of the class, and a decimal number exactly when it has a point or
an exponent mark. -/
theorem scan_spec {a : Bool} {cs : List Char} {n : Nat} {k : TokenKind}
    (h : scan a cs = some ⟨n, .ok k⟩) :
    tokenClass k = classOf a cs ∧ LongestPrefix k.Language cs n ∧
      (tokenClass k = .number → (k = .decimal ↔ ∃ x ∈ cs.take n, x = '.' ∨ x = 'e' ∨ x = 'E')) := by
  unfold scan at h
  split at h
  · next _ hc =>
    obtain ⟨m, hm, he⟩ := Option.map_eq_some_iff.mp h
    cases he
    exact ⟨hc.symm, Extent.identifier_longest hm, fun h => nomatch h⟩
  · next _ hc =>
    obtain ⟨⟨m, k'⟩, hm, he⟩ := Option.map_eq_some_iff.mp h
    cases he
    have hlong := Extent.number_longest hm
    have hdec := Extent.number_decimal_iff hm
    rcases Extent.number_kind hm with rfl | rfl <;> exact ⟨hc.symm, hlong, fun _ => hdec⟩
  · next _ hc =>
    obtain ⟨rfl, hlong⟩ := Extent.character_longest h rfl
    exact ⟨hc.symm, hlong, fun h => nomatch h⟩
  · next _ hc =>
    have he := Option.some.inj h
    have hk : (Extent.string cs).outcome = .ok k := by rw [he]
    obtain ⟨rfl, hlong⟩ := Extent.string_longest hk
    rw [he] at hlong
    exact ⟨hc.symm, hlong, fun h => nomatch h⟩
  · next _ hc =>
    obtain ⟨rfl, hlong⟩ := Extent.operator_longest h rfl
    exact ⟨hc.symm, hlong, fun h => nomatch h⟩

theorem scan_pos {a : Bool} {cs : List Char} {n : Nat} {k : TokenKind}
    (h : scan a cs = some ⟨n, .ok k⟩) : 0 < n :=
  scan_length_pos h rfl

/-! ### Between two tokens -/

def tokenAt (k : TokenKind) (s : List Char) (j n : Nat) : Token :=
  ⟨k, String.ofList ((s.drop j).take n), ⟨j, j + n, Nat.le_add_right j n⟩⟩

/-- A lexer between two tokens of `s`: its cursor represents `s` and nothing is pending. -/
structure Between (s : String) (lx : Lexer) : Prop where
  represents : lx.cursor.Represents s
  pending_eq : lx.cursor.pending = 0

theorem between_start (s : String) : Between s (start s) := ⟨Cursor.represents_start s, rfl⟩

theorem index_add_le {s : String} {c : Cursor} {n : Nat} (h : c.Represents s)
    (hn : n ≤ c.rest.length) : c.index + n ≤ s.length := by
  have hle := h.index_le
  rw [h.rest_eq, List.length_drop, String.length_toList] at hn
  omega

theorem skip_emit {s : String} {lx : Lexer} {n : Nat} (hb : Between s lx) (hn : 0 < n)
    (hle : n ≤ lx.cursor.rest.length) :
    ∃ c, (lx.skip n).cursor.emit = .ok (⟨String.ofList ((s.toList.drop lx.cursor.index).take n),
        ⟨lx.cursor.index, lx.cursor.index + n, Nat.le_add_right _ _⟩⟩, c) ∧
      Between s { lx with cursor := c } ∧ c.index = lx.cursor.index + n := by
  obtain ⟨hrep, hidx, hpend⟩ := hb.represents.advance (index_add_le hb.represents hle)
  rw [hb.pending_eq, Nat.zero_add] at hpend
  obtain ⟨hemit, hrep'⟩ := hrep.emit (by omega)
  refine ⟨_, ?_, ⟨hrep', rfl⟩, hidx⟩
  rw [skip, hemit]
  simp only [Cursor.pendingSpan, hidx, hpend, Nat.add_sub_cancel]

theorem finish_of_ok {s : String} {lx : Lexer} {n : Nat} {k : TokenKind} (hb : Between s lx)
    (hn : 0 < n) (hle : n ≤ lx.cursor.rest.length) :
    ∃ lx', lx.finish ⟨n, .ok k⟩ = .ok (lx', .ok (tokenAt k s.toList lx.cursor.index n)) ∧
      Between s lx' ∧ lx'.cursor.index = lx.cursor.index + n ∧
      lx'.afterOperand = (tokenAt k s.toList lx.cursor.index n).endsOperand ∧
      lx'.stopped = lx.stopped := by
  obtain ⟨c, he, hb', hidx⟩ := skip_emit hb hn hle
  refine ⟨{ lx with cursor := c, afterOperand := (tokenAt k s.toList lx.cursor.index n).endsOperand },
    ?_, ⟨hb'.represents, hb'.pending_eq⟩, hidx, rfl, rfl⟩
  simp only [finish, emitToken, he]
  rfl

theorem trivia_then {s : List Char} {i j k : Nat} (hij : i ≤ j) (hjk : j ≤ k)
    (h₁ : Trivia ((s.drop i).take (j - i))) (h₂ : Trivia ((s.drop j).take (k - j))) :
    Trivia ((s.drop i).take (k - i)) := by
  have hsplit : (s.drop i).take (k - i) = (s.drop i).take (j - i) ++ (s.drop j).take (k - j) := by
    rw [show k - i = (j - i) + (k - j) by omega, List.take_add, List.drop_drop,
      Nat.add_sub_cancel' hij]
  rw [hsplit]
  exact h₁.append h₂

/-- `lx₀` comes from `lx` by skipping trivia of `s`: the index has moved forward over trivia,
and the flags are kept. -/
structure SkipsTo (s : String) (lx lx₀ : Lexer) : Prop where
  index_le : lx.cursor.index ≤ lx₀.cursor.index
  trivia : Trivia ((s.toList.drop lx.cursor.index).take (lx₀.cursor.index - lx.cursor.index))
  afterOperand_eq : lx₀.afterOperand = lx.afterOperand
  stopped_eq : lx₀.stopped = lx.stopped

theorem SkipsTo.refl (s : String) (lx : Lexer) : SkipsTo s lx lx :=
  ⟨Nat.le_refl _, by simpa using Trivia.nil, rfl, rfl⟩

theorem SkipsTo.trans {s : String} {lx₁ lx₂ lx₃ : Lexer} (h₁ : SkipsTo s lx₁ lx₂)
    (h₂ : SkipsTo s lx₂ lx₃) : SkipsTo s lx₁ lx₃ where
  index_le := Nat.le_trans h₁.index_le h₂.index_le
  trivia := trivia_then h₁.index_le h₂.index_le h₁.trivia h₂.trivia
  afterOperand_eq := h₂.afterOperand_eq.trans h₁.afterOperand_eq
  stopped_eq := h₂.stopped_eq.trans h₁.stopped_eq

theorem skipsTo_of_emit {s : String} {lx : Lexer} {n : Nat} {c : Cursor}
    (hb : Between s lx) (htriv : Trivia (lx.cursor.rest.take n)) (hidx : c.index = lx.cursor.index + n) :
    SkipsTo s lx { lx with cursor := c } := by
  rw [hb.represents.rest_eq] at htriv
  refine ⟨by simp only [hidx]; omega, ?_, rfl, rfl⟩
  simp only [hidx, Nat.add_sub_cancel_left]
  exact htriv

theorem skipBlank_skips {s : String} {lx : Lexer} (hb : Between s lx)
    (hblank : lx.cursor.peek [isBlank] = true) :
    ∃ lx', lx.skipBlank = .ok lx' ∧ Between s lx' ∧ SkipsTo s lx lx' := by
  obtain ⟨c, he, hb', hidx⟩ := skip_emit hb (Extent.blank_pos hblank)
    (List.takeWhile_prefix isBlank).length_le
  exact ⟨_, by simp only [skipBlank, he], hb', skipsTo_of_emit hb (Extent.blank_trivia _) hidx⟩

theorem skipComment_skips {s : String} {lx : Lexer} (hb : Between s lx)
    (hslash : lx.cursor.peek [isSlash, isSlash] = true) :
    ∃ lx', lx.skipComment = .ok lx' ∧ Between s lx' ∧ SkipsTo s lx lx' := by
  obtain ⟨n, hn, hpos⟩ := Extent.comment_isSome hslash
  obtain ⟨c, he, hb', hidx⟩ := skip_emit hb hpos (Extent.comment_le hn)
  exact ⟨_, by simp only [skipComment, hn, he], hb',
    skipsTo_of_emit hb (Extent.comment_trivia hn) hidx⟩

/-- The text where the stream stops skipping and scans a token: a character is left, and it opens
neither a blank run nor a comment. -/
def TokenStart (R : List Char) : Prop :=
  ∃ c r, R = c :: r ∧ ¬IsBlank c ∧ ¬(c = '/' ∧ r.head? = some '/')

theorem tokenStart_iff (R : List Char) :
    TokenStart R ↔
      R ≠ [] ∧ startsWithAll [isBlank] R = false ∧ startsWithAll [isSlash, isSlash] R = false := by
  match R with
  | [] => simp [TokenStart]
  | [c] => simp [TokenStart, startsWithAll, ← isBlank_iff]
  | c :: d :: r => simp [TokenStart, startsWithAll, ← isBlank_iff, isSlash]

theorem tokenStart_rest {lx : Lexer} (hc : lx.cursor.has 0 = true)
    (hblank : ¬lx.cursor.peek [isBlank] = true)
    (hslash : ¬lx.cursor.peek [isSlash, isSlash] = true) : TokenStart lx.cursor.rest := by
  rw [tokenStart_iff]
  refine ⟨List.ne_nil_of_length_pos ((Cursor.has_iff _ _).mp hc), ?_, ?_⟩
  · simpa [Cursor.peek] using hblank
  · simpa [Cursor.peek] using hslash

theorem tokenStart_of_peek {s : String} {lx : Lexer} (hb : Between s lx)
    (hc : lx.cursor.has 0 = true) (hblank : ¬lx.cursor.peek [isBlank] = true)
    (hslash : ¬lx.cursor.peek [isSlash, isSlash] = true) :
    TokenStart (s.toList.drop lx.cursor.index) := by
  rw [← hb.represents.rest_eq]
  exact tokenStart_rest hc hblank hslash

theorem lexToken_token {s : String} {lx lx' : Lexer} {t : Token} (hb : Between s lx)
    (h : lx.lexToken = .ok (lx', .ok t)) :
    ∃ n k, scan lx.afterOperand (s.toList.drop lx.cursor.index) = some ⟨n, .ok k⟩ ∧
      t = tokenAt k s.toList lx.cursor.index n ∧ Between s lx' ∧
      lx'.cursor.index = lx.cursor.index + n ∧ lx'.afterOperand = t.endsOperand ∧
      lx'.stopped = lx.stopped := by
  have hr : lx.cursor.rest ≠ [] := by
    intro hnil
    have hlt := lexToken_rest_lt h
    rw [hnil] at hlt
    exact Nat.not_lt_zero _ hlt
  obtain ⟨⟨n, o⟩, hscan, hfin⟩ := lexToken_eq_finish hr
  rw [hfin] at h
  obtain ⟨⟨k, hk⟩, -⟩ := finish_token h
  simp only at hk
  subst hk
  obtain ⟨lx₁, hfin₁, hb₁, hidx₁, ha₁, hs₁⟩ :=
    finish_of_ok hb (scan_pos hscan) (scan_spec hscan).2.1.le_length
  rw [hfin₁] at h
  cases h
  rw [← hb.represents.rest_eq]
  exact ⟨n, k, hscan, rfl, hb₁, hidx₁, ha₁, hs₁⟩

/-- Before a token the stream skips trivia: from a lexer between tokens it comes, over blank runs
and comments, to one where the text ends or a token starts, and it goes on from there. -/
theorem nextToken_skips {s : String} {lx : Lexer} (hb : Between s lx) :
    ∃ lx₀ : Lexer, Between s lx₀ ∧ SkipsTo s lx lx₀ ∧ lx.nextToken = lx₀.nextToken ∧
      ((lx₀.cursor.index = s.length ∧ lx₀.nextToken = .ok (lx₀, none)) ∨
        (TokenStart (s.toList.drop lx₀.cursor.index) ∧
          lx₀.nextToken = lx₀.lexToken.map fun r => (r.1, some r.2))) := by
  -- one case per branch of the loop; after a skip the induction hypothesis goes on
  induction lx using nextToken.induct with
  | case1 lx hc hblank f hf =>
    obtain ⟨lx', h, -⟩ := skipBlank_skips hb hblank
    rw [h] at hf
    cases hf
  | case2 lx hc hblank lx₁ h₁ ih =>
    obtain ⟨lx₂, h₂, hb₂, hskip₂⟩ := skipBlank_skips hb hblank
    rw [h₁] at h₂
    cases h₂
    obtain ⟨lx₀, hb₀, hskip₀, hnext₀, hend₀⟩ := ih hb₂
    exact ⟨lx₀, hb₀, hskip₂.trans hskip₀, (nextToken_of_blank hc hblank h₁).trans hnext₀, hend₀⟩
  | case3 lx hc hblank hslash f hf =>
    obtain ⟨lx', h, -⟩ := skipComment_skips hb hslash
    rw [h] at hf
    cases hf
  | case4 lx hc hblank hslash lx₁ h₁ ih =>
    obtain ⟨lx₂, h₂, hb₂, hskip₂⟩ := skipComment_skips hb hslash
    rw [h₁] at h₂
    cases h₂
    obtain ⟨lx₀, hb₀, hskip₀, hnext₀, hend₀⟩ := ih hb₂
    exact ⟨lx₀, hb₀, hskip₂.trans hskip₀, (nextToken_of_comment hc hblank hslash h₁).trans hnext₀,
      hend₀⟩
  | case5 lx hc hblank hslash f hf =>
    exact ⟨lx, hb, .refl s lx, rfl,
      .inr ⟨tokenStart_of_peek hb hc hblank hslash, nextToken_of_token hc hblank hslash⟩⟩
  | case6 lx hc hblank hslash lx₁ r hr =>
    exact ⟨lx, hb, .refl s lx, rfl,
      .inr ⟨tokenStart_of_peek hb hc hblank hslash, nextToken_of_token hc hblank hslash⟩⟩
  | case7 lx hc =>
    have hend : lx.cursor.index = s.length := by
      have hidx := hb.represents.index_le
      rw [hb.represents.has_eq] at hc
      simp only [Nat.add_zero, decide_eq_true_eq] at hc
      omega
    exact ⟨lx, hb, .refl s lx, rfl, .inl ⟨hend, nextToken_of_end hc⟩⟩

theorem nextToken_none {s : String} {lx lx' : Lexer} (hb : Between s lx)
    (h : lx.nextToken = .ok (lx', none)) : Trivia (s.toList.drop lx.cursor.index) := by
  obtain ⟨lx₀, -, hskip, hnext, hend⟩ := nextToken_skips hb
  rcases hend with ⟨hidx, -⟩ | ⟨-, htok⟩
  · have htriv := hskip.trivia
    have hlen : (s.toList.drop lx.cursor.index).length ≤ s.length - lx.cursor.index :=
      Nat.le_of_eq (by rw [List.length_drop, String.length_toList])
    rw [hidx, List.take_of_length_le hlen] at htriv
    exact htriv
  · rw [hnext, htok] at h
    cases hl : lx₀.lexToken <;> simp [hl, Except.map] at h

theorem nextToken_token {s : String} {lx lx' : Lexer} {t : Token} (hb : Between s lx)
    (h : lx.nextToken = .ok (lx', some (.ok t))) :
    ∃ j n k, lx.cursor.index ≤ j ∧
      Trivia ((s.toList.drop lx.cursor.index).take (j - lx.cursor.index)) ∧
      TokenStart (s.toList.drop j) ∧
      scan lx.afterOperand (s.toList.drop j) = some ⟨n, .ok k⟩ ∧ t = tokenAt k s.toList j n ∧
      Between s lx' ∧ lx'.cursor.index = j + n ∧ lx'.afterOperand = t.endsOperand ∧
      lx'.stopped = lx.stopped := by
  obtain ⟨lx₀, hb₀, hskip, hnext, hend⟩ := nextToken_skips hb
  rcases hend with ⟨-, hnone⟩ | ⟨hstart, htok⟩
  · rw [hnext, hnone] at h
    cases h
  · rw [hnext, htok] at h
    cases hl : lx₀.lexToken with
    | error f => simp [hl, Except.map] at h
    | ok p =>
      obtain ⟨lx₁, r⟩ := p
      simp only [hl, Except.map, Except.ok.injEq, Prod.mk.injEq, Option.some.injEq] at h
      obtain ⟨rfl, rfl⟩ := h
      obtain ⟨n, k, hscan, ht, hb₁, hidx₁, ha₁, hs₁⟩ := lexToken_token hb₀ hl
      rw [hskip.afterOperand_eq] at hscan
      exact ⟨lx₀.cursor.index, n, k, hskip.index_le, hskip.trivia, hstart, hscan, ht, hb₁, hidx₁,
        ha₁, hs₁.trans hskip.stopped_eq⟩

theorem nextToken_of_next {lx lx' : Lexer} {r : Option (Except LexError Token)}
    (hs : lx.stopped = false) (h : lx.next = .ok (lx', r)) (hr : ∀ e, r ≠ some (.error e)) :
    lx.nextToken = .ok (lx', r) := by
  unfold next at h
  rw [if_neg (by simp [hs])] at h
  split at h
  · cases h
  · cases h
    exact absurd rfl (hr _)
  · next heq =>
    cases h
    exact heq

/-! ### The whole stream -/

theorem collect_of_fault {lx : Lexer} {acc : List Token} {f : Fault} (h : lx.next = .error f) :
    lx.collect acc = .error f := by
  rw [collect]
  split <;> simp_all

theorem collect_of_end {lx lx' : Lexer} {acc : List Token} (h : lx.next = .ok (lx', none)) :
    lx.collect acc = .ok (.ok acc.reverse) := by
  rw [collect]
  split <;> simp_all

theorem collect_of_error {lx lx' : Lexer} {acc : List Token} {e : LexError}
    (h : lx.next = .ok (lx', some (.error e))) : lx.collect acc = .ok (.error e) := by
  rw [collect]
  split <;> simp_all

theorem collect_of_token {lx lx' : Lexer} {acc : List Token} {t : Token}
    (h : lx.next = .ok (lx', some (.ok t))) : lx.collect acc = lx'.collect (t :: acc) := by
  rw [collect]
  split <;> simp_all

end Lexer

open Lexer in
/-- From offset `i`, after an operand or not as `a` says, the characters of `s` lex to the tokens
`ts`: each token is what the scan of its class reads after trivia, and trivia ends the text. -/
inductive Lexes (s : List Char) : Bool → Nat → List Token → Prop
  | done {a : Bool} {i : Nat} : Trivia (s.drop i) → Lexes s a i []
  | token {a : Bool} {i j n : Nat} {k : TokenKind} {ts : List Token} : i ≤ j →
      Trivia ((s.drop i).take (j - i)) → scan a (s.drop j) = some ⟨n, .ok k⟩ →
      Lexes s (tokenAt k s j n).endsOperand (j + n) ts → Lexes s a i (tokenAt k s j n :: ts)

end Lexis
