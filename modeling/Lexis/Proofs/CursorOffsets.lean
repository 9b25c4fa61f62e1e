import Lexis.Cursor.Calls
import Lexis.Proofs.Utf8

/-!
A cursor keeps a character index and a byte offset side by side, and a pending run counted in
characters that starts at a byte offset. `Cursor.Represents s c` says that these agree with the
text `s`: the byte offsets are the encoded lengths of the characters before them, and the
characters ahead are the rest of `s`.

Every call keeps `Represents`, and on a cursor that represents its text every call does what
`Call.onText` says it does on the bare text, as a move of the character index with a count of
pending characters. A cursor that represents its text is fixed by these two numbers
(`Represents.ext`), so a call that leaves them alone changes nothing. Main statement:
`performAll_start_onText`, along every run of calls from the start of a text.
-/

namespace Lexis

namespace Cursor

/-- How a cursor stands in the text `s`: `index` characters consumed, the last `pending` of them
pending; the characters ahead are the rest of `s`; the byte offset of the next character and of
the start of the pending run are the encoded lengths of the characters before them. -/
structure Represents (s : String) (c : Cursor) : Prop where
  source_eq : c.source = s
  index_le : c.index ≤ s.length
  pending_le : c.pending ≤ c.index
  rest_eq : c.rest = s.toList.drop c.index
  position_eq : c.position = utf8Length (s.toList.take c.index)
  pendingStart_eq : c.pendingStart = utf8Length (s.toList.take (c.index - c.pending))

/-- The text that the next emit hands out: the source between the two byte offsets. -/
def pendingText (c : Cursor) : String :=
  String.Pos.Raw.extract c.source ⟨c.pendingStart⟩ ⟨c.position⟩

theorem represents_start (s : String) : Represents s (start s) := by
  constructor <;> simp

theorem startsWithAll_length {tests : List (Char → Bool)} {cs : List Char}
    (h : startsWithAll tests cs = true) : tests.length ≤ cs.length := by
  induction tests generalizing cs with
  | nil => simp
  | cons t ts ih =>
    cases cs with
    | nil => simp [startsWithAll] at h
    | cons x xs =>
      simp only [startsWithAll, Bool.and_eq_true] at h
      simpa using ih h.2

theorem exists_drop_eq_cons {s : String} {k : Nat} (hlt : k < s.length) :
    ∃ x xs, s.toList.drop k = x :: xs :=
  List.ne_nil_iff_exists_cons.mp (by simp [List.drop_eq_nil_iff, String.length_toList]; omega)

namespace Represents

variable {s : String} {c : Cursor}

theorem ext {c' : Cursor} (h : Represents s c) (h' : Represents s c') (hi : c.index = c'.index)
    (hp : c.pending = c'.pending) : c = c' := by
  cases c
  cases c'
  simp only at hi hp
  subst hi hp
  simp only [Cursor.mk.injEq]
  exact ⟨h.source_eq.trans h'.source_eq.symm, h.rest_eq.trans h'.rest_eq.symm,
    trivial, h.position_eq.trans h'.position_eq.symm, trivial,
    h.pendingStart_eq.trans h'.pendingStart_eq.symm⟩

theorem rest_eq_nil_iff (h : Represents s c) : c.rest = [] ↔ c.index = s.length := by
  have hle := h.index_le
  rw [h.rest_eq, List.drop_eq_nil_iff, String.length_toList]
  omega

theorem pendingText_eq (h : Represents s c) :
    c.pendingText = String.ofList ((s.toList.drop (c.index - c.pending)).take c.pending) := by
  have hle := h.pending_le
  rw [pendingText, h.source_eq, h.pendingStart_eq, h.position_eq,
    extract_utf8Length_take s (Nat.sub_le _ _) h.index_le]
  congr 2
  omega

theorem bump (h : Represents s c) (hlt : c.index < s.length) :
    Represents s c.bump ∧ c.bump.index = c.index + 1 ∧ c.bump.pending = c.pending + 1 := by
  obtain ⟨x, xs, hx⟩ := exists_drop_eq_cons hlt
  have hb := bump_of_rest_cons (h.rest_eq.trans hx)
  have hp := h.pending_le
  refine ⟨⟨?_, ?_, ?_, ?_, ?_, ?_⟩, by rw [hb], by rw [hb]⟩ <;> rw [hb]
  · exact h.source_eq
  · exact hlt
  · simp only; omega
  · simp only
    rw [← List.drop_drop, hx]
    rfl
  · simp only
    rw [h.position_eq, utf8Length_take_succ hx]
  · simp only
    rw [h.pendingStart_eq]
    congr 2
    omega

/-- A bump keeps the cursor in step with its text, also at the end, where it does nothing. -/
theorem represents_bump (h : Represents s c) : Represents s c.bump := by
  rcases Nat.lt_or_ge c.index s.length with hlt | hge
  · exact (h.bump hlt).1
  · have hend : c.rest = [] := h.rest_eq_nil_iff.mpr (Nat.le_antisymm h.index_le hge)
    rw [bump_of_rest_nil hend]
    exact h

theorem represents_advance (h : Represents s c) (k : Nat) : Represents s (c.advance k) := by
  induction k generalizing c with
  | zero => exact h
  | succ k ih => exact ih h.represents_bump

theorem advance (h : Represents s c) {k : Nat} (hk : c.index + k ≤ s.length) :
    Represents s (c.advance k) ∧ (c.advance k).index = c.index + k ∧
      (c.advance k).pending = c.pending + k := by
  induction k generalizing c with
  | zero => exact ⟨h, rfl, rfl⟩
  | succ k ih =>
    obtain ⟨hb, hi, hp⟩ := h.bump (by omega)
    obtain ⟨ha, hai, hap⟩ := ih hb (by omega)
    refine ⟨ha, ?_, ?_⟩
    · rw [Cursor.advance, hai, hi]; omega
    · rw [Cursor.advance, hap, hp]; omega

/-! ### Each operation on a cursor that represents its text -/

theorem has_eq (h : Represents s c) (n : Nat) : c.has n = decide (c.index + n < s.length) := by
  have hle := h.index_le
  rw [Bool.eq_iff_iff, has_iff, h.rest_eq, List.length_drop, String.length_toList,
    decide_eq_true_iff]
  omega

theorem peek_eq (h : Represents s c) (tests : List (Char → Bool)) :
    c.peek tests = startsWithAll tests (s.toList.drop c.index) := by
  rw [Cursor.peek, h.rest_eq]

theorem current_eq (h : Represents s c) : c.current = s.toList[c.index]? := by
  rw [Cursor.current, h.rest_eq, List.head?_drop]

theorem isAtEnd_eq (h : Represents s c) : c.isAtEnd = decide (c.index = s.length) := by
  have hle := h.index_le
  have hend : s.utf8ByteSize = utf8Length (s.toList.take s.length) := by
    rw [← String.length_toList, List.take_length, utf8Length_toList]
  rw [Cursor.isAtEnd, h.source_eq, h.position_eq, hend, decide_eq_decide]
  rcases Nat.lt_or_ge c.index s.length with hlt | hge
  · have := utf8Length_take_lt s.toList hlt (Nat.le_of_eq String.length_toList)
    omega
  · have hi : c.index = s.length := by omega
    simp [hi]

theorem remaining_eq (h : Represents s c) :
    c.remaining = String.ofList (s.toList.drop c.index) := by
  rw [Cursor.remaining, h.source_eq, h.position_eq, extract_utf8Length_take_end s h.index_le]

theorem matchSeq_of_pass (h : Represents s c) {tests : List (Char → Bool)}
    (hp : startsWithAll tests (s.toList.drop c.index) = true) :
    (c.matchSeq tests).1 = true ∧ Represents s (c.matchSeq tests).2 ∧
      (c.matchSeq tests).2.index = c.index + tests.length ∧
      (c.matchSeq tests).2.pending = c.pending + tests.length := by
  have hlen := startsWithAll_length hp
  have hle := h.index_le
  simp only [List.length_drop, String.length_toList] at hlen
  rw [Cursor.matchSeq, if_pos (by rw [h.peek_eq]; exact hp)]
  exact ⟨rfl, h.advance (by omega)⟩

theorem matchSeq_of_fail (h : Represents s c) {tests : List (Char → Bool)}
    (hp : startsWithAll tests (s.toList.drop c.index) = false) : c.matchSeq tests = (false, c) := by
  rw [Cursor.matchSeq, if_neg (by rw [h.peek_eq, hp]; simp)]

theorem peekChar_eq (h : Represents s c) (x : Char) :
    c.peekChar x = decide (s.toList[c.index]? = some x) := by
  rw [Cursor.peekChar, h.current_eq]
  cases s.toList[c.index]? with
  | none => rfl
  | some y => by_cases hy : y = x <;> simp [hy]

theorem matchChar_of_eq (h : Represents s c) {x : Char} (hx : s.toList[c.index]? = some x) :
    (c.matchChar x).1 = true ∧ Represents s (c.matchChar x).2 ∧
      (c.matchChar x).2.index = c.index + 1 ∧ (c.matchChar x).2.pending = c.pending + 1 := by
  have hlt : c.index < s.length := by
    rw [← String.length_toList]
    exact (List.getElem?_eq_some_iff.mp hx).1
  rw [Cursor.matchChar, if_pos (by rw [h.peekChar_eq]; simp [hx])]
  exact ⟨rfl, h.bump hlt⟩

theorem matchChar_of_ne (h : Represents s c) {x : Char} (hx : s.toList[c.index]? ≠ some x) :
    c.matchChar x = (false, c) := by
  rw [Cursor.matchChar, if_neg (by rw [h.peekChar_eq]; simp [hx])]

/-- `matchWhile` counts and consumes the longest run ahead that passes the test. -/
theorem matchWhile (h : Represents s c) (p : Char → Bool) :
    (c.matchWhile p).1 = ((s.toList.drop c.index).takeWhile p).length ∧
      Represents s (c.matchWhile p).2 ∧
      (c.matchWhile p).2.index = c.index + ((s.toList.drop c.index).takeWhile p).length ∧
      (c.matchWhile p).2.pending = c.pending + ((s.toList.drop c.index).takeWhile p).length := by
  have hrun : ((s.toList.drop c.index).takeWhile p).length ≤ (s.toList.drop c.index).length :=
    (List.takeWhile_prefix p).length_le
  have hle := h.index_le
  simp only [List.length_drop, String.length_toList] at hrun
  rw [matchWhile_eq, h.rest_eq]
  exact ⟨rfl, h.advance (by omega)⟩

/-- The two byte offsets of the pending run are character boundaries of the source, in order. -/
theorem cut (h : Represents s c) :
    c.pendingStart ≤ c.position ∧ String.Pos.Raw.IsValid c.source ⟨c.pendingStart⟩ ∧
      String.Pos.Raw.IsValid c.source ⟨c.position⟩ := by
  rw [h.pendingStart_eq, h.position_eq, h.source_eq]
  refine ⟨?_, String.Pos.Raw.isValid_iff_exists_take_toList.mpr ⟨_, rfl⟩,
    String.Pos.Raw.isValid_iff_exists_take_toList.mpr ⟨_, rfl⟩⟩
  rw [utf8Length_take_split s.toList (Nat.sub_le c.index c.pending)]
  exact Nat.le_add_right _ _

/-- An emit with something pending hands out the characters of the pending run, with their
span, and starts an empty run where it stands: its cut of the source and its span are always
well formed. -/
theorem emit (h : Represents s c) (hp : c.pending ≠ 0) :
    c.emit = .ok (⟨String.ofList ((s.toList.drop (c.index - c.pending)).take c.pending),
        c.pendingSpan⟩, { c with pending := 0, pendingStart := c.position }) ∧
      Represents s { c with pending := 0, pendingStart := c.position } := by
  refine ⟨?_, ⟨h.source_eq, h.index_le, Nat.zero_le _, h.rest_eq, h.position_eq, ?_⟩⟩
  · rw [Cursor.emit, if_neg hp, if_neg (not_not.mpr h.cut), if_neg (Nat.not_lt.mpr h.pending_le),
      ← h.pendingText_eq]
    rfl
  · simp only [Nat.sub_zero]
    exact h.position_eq

/-- Whatever an emit hands out, the cursor after it is in step with the text. -/
theorem of_emit (h : Represents s c) {l : Lexeme} {c' : Cursor} (he : c.emit = .ok (l, c')) :
    Represents s c' := by
  have hp : c.pending ≠ 0 := by
    intro hp
    rw [Cursor.emit, if_pos hp] at he
    cases he
  obtain ⟨he', hr⟩ := h.emit hp
  rw [he', Except.ok.injEq, Prod.mk.injEq] at he
  exact he.2 ▸ hr

end Represents

/-! ### The calls read off the text -/

/-- What a call answers, and where it leaves the character index `i` and the count `p` of
pending characters, read off the text `s` alone. -/
def Call.onText (s : List Char) (i p : Nat) : Call → Except Fault (Answer × Nat × Nat)
  | .has n => .ok (.flag (decide (i + n < s.length)), i, p)
  | .peek tests => .ok (.flag (startsWithAll tests (s.drop i)), i, p)
  | .matchSeq tests =>
    if startsWithAll tests (s.drop i) then
      .ok (.flag true, i + tests.length, p + tests.length)
    else .ok (.flag false, i, p)
  | .peekChar x => .ok (.flag (decide (s[i]? = some x)), i, p)
  | .matchChar x => if s[i]? = some x then .ok (.flag true, i + 1, p + 1) else .ok (.flag false, i, p)
  | .matchWhile test =>
    let n := ((s.drop i).takeWhile test).length
    .ok (.count n, i + n, p + n)
  | .matchAny => if i < s.length then .ok (.flag true, i + 1, p + 1) else .ok (.flag false, i, p)
  | .emit =>
    if p = 0 then .error .emitNothing
    else .ok (.lexeme ⟨String.ofList ((s.drop (i - p)).take p), ⟨i - p, i, Nat.sub_le _ _⟩⟩, i, 0)
  | .current => .ok (.char s[i]?, i, p)
  | .isAtEnd => .ok (.flag (decide (i = s.length)), i, p)
  | .index => .ok (.count i, i, p)
  | .pending => .ok (.count p, i, p)
  | .remaining => .ok (.text (String.ofList (s.drop i)), i, p)

/-- A run of calls read off the text alone; a refused call moves nothing. -/
def Call.runOnText (s : List Char) : Nat → Nat → List Call → List (Except Fault Answer × Nat × Nat)
  | _, _, [] => []
  | i, p, call :: calls =>
    match call.onText s i p with
    | .error f => (.error f, i, p) :: Call.runOnText s i p calls
    | .ok (a, i', p') => (.ok a, i', p') :: Call.runOnText s i' p' calls

/-- A call keeps the cursor in step with its text, and answers and moves as `Call.onText`
says. -/
theorem Represents.perform {s : String} {c : Cursor} (h : Represents s c) (call : Call) :
    (c.perform call).map (fun r => (r.1, r.2.index, r.2.pending)) =
        call.onText s.toList c.index c.pending ∧
      ∀ a c', c.perform call = .ok (a, c') → Represents s c' := by
  -- every call that goes through lands on one cursor; it is enough that this one is in step
  have lands : ∀ {r : Answer × Cursor}, Represents s r.2 → ∀ a c',
      (Except.ok r : Except Fault (Answer × Cursor)) = .ok (a, c') → Represents s c' := by
    intro r hr a c' hc
    cases hc
    exact hr
  cases call with
  | has n =>
    exact ⟨by simp [Cursor.perform, Call.onText, h.has_eq, Except.map, String.length_toList],
      lands h⟩
  | peek tests => exact ⟨by simp [Cursor.perform, Call.onText, h.peek_eq, Except.map], lands h⟩
  | matchSeq tests =>
    by_cases hp : startsWithAll tests (s.toList.drop c.index) = true
    · obtain ⟨h1, h2, h3, h4⟩ := h.matchSeq_of_pass hp
      exact ⟨by simp [Call.onText, hp, h1, h3, h4, Except.map], lands h2⟩
    · have hm := h.matchSeq_of_fail (Bool.eq_false_iff.mpr hp)
      exact ⟨by simp [Call.onText, hp, hm, Except.map], by rw [perform_matchSeq, hm]; exact lands h⟩
  | peekChar x => exact ⟨by simp [Cursor.perform, Call.onText, h.peekChar_eq, Except.map], lands h⟩
  | matchChar x =>
    by_cases hx : s.toList[c.index]? = some x
    · obtain ⟨h1, h2, h3, h4⟩ := h.matchChar_of_eq hx
      exact ⟨by simp [Call.onText, hx, h1, h3, h4, Except.map], lands h2⟩
    · have hm := h.matchChar_of_ne hx
      exact ⟨by simp [Call.onText, hx, hm, Except.map], by rw [perform_matchChar, hm]; exact lands h⟩
  | matchWhile test =>
    obtain ⟨h1, h2, h3, h4⟩ := h.matchWhile test
    exact ⟨by simp [Call.onText, h1, h3, h4, Except.map], lands h2⟩
  | matchAny =>
    by_cases hlt : c.index < s.length
    · have hp : startsWithAll [fun _ => true] (s.toList.drop c.index) = true := by
        obtain ⟨x, xs, hx⟩ := exists_drop_eq_cons hlt
        simp [hx, startsWithAll]
      obtain ⟨h1, h2, h3, h4⟩ := h.matchSeq_of_pass hp
      exact ⟨by simp [Call.onText, hlt, matchAny, h1, h3, h4, Except.map, String.length_toList],
        lands h2⟩
    · have hp : startsWithAll [fun _ => true] (s.toList.drop c.index) = false := by
        have hd : s.toList.drop c.index = [] := by
          simp [List.drop_eq_nil_iff, String.length_toList]
          omega
        simp [hd, startsWithAll]
      have hm := h.matchSeq_of_fail hp
      exact ⟨by simp [Call.onText, hlt, matchAny, hm, Except.map, String.length_toList],
        by rw [perform_matchAny, matchAny, hm]; exact lands h⟩
  | emit =>
    by_cases hp : c.pending = 0
    · refine ⟨by simp [Cursor.perform, Cursor.emit, Call.onText, hp, Except.map], ?_⟩
      intro a c' hc
      simp [Cursor.perform, Cursor.emit, hp] at hc
    · obtain ⟨he, hr⟩ := h.emit hp
      refine ⟨by simp [Cursor.perform, he, Call.onText, hp, Except.map, pendingSpan], ?_⟩
      rw [Cursor.perform, he]
      exact lands hr
  | current => exact ⟨by simp [Cursor.perform, Call.onText, h.current_eq, Except.map], lands h⟩
  | isAtEnd =>
    exact ⟨by simp [Cursor.perform, Call.onText, h.isAtEnd_eq, Except.map, String.length_toList],
      lands h⟩
  | index => exact ⟨by simp [Cursor.perform, Call.onText, Except.map], lands h⟩
  | pending => exact ⟨by simp [Cursor.perform, Call.onText, Except.map], lands h⟩
  | remaining => exact ⟨by simp [Cursor.perform, Call.onText, h.remaining_eq, Except.map], lands h⟩

/-- Along a run of calls the cursor stays in step with its text, and the run answers and moves
as the run read off the text. -/
theorem Represents.performAll {s : String} {c : Cursor} (h : Represents s c) (calls : List Call) :
    (∀ e ∈ c.performAll calls, Represents s e.2) ∧
      (c.performAll calls).map (fun e => (e.1, e.2.index, e.2.pending)) =
        Call.runOnText s.toList c.index c.pending calls := by
  induction calls generalizing c with
  | nil => simp [Cursor.performAll, Call.runOnText]
  | cons call calls ih =>
    obtain ⟨hview, hkeep⟩ := h.perform call
    cases hc : c.perform call with
    | error f =>
      rw [hc] at hview
      obtain ⟨hall, hrun⟩ := ih h
      refine ⟨?_, ?_⟩
      · simp only [Cursor.performAll, hc, List.mem_cons, forall_eq_or_imp]
        exact ⟨h, hall⟩
      · simp only [Cursor.performAll, hc, Call.runOnText, ← hview, List.map_cons, hrun]
        rfl
    | ok r =>
      obtain ⟨a, c'⟩ := r
      rw [hc] at hview
      have h' := hkeep a c' hc
      obtain ⟨hall, hrun⟩ := ih h'
      refine ⟨?_, ?_⟩
      · simp only [Cursor.performAll, hc, List.mem_cons, forall_eq_or_imp]
        exact ⟨h', hall⟩
      · simp only [Cursor.performAll, hc, Call.runOnText, ← hview, List.map_cons, hrun]
        rfl

/-! ### What the emits of a run hand out -/

def lexemeTexts : List (Except Fault Answer × Cursor) → List String
  | [] => []
  | (.ok (.lexeme l), _) :: es => l.text :: lexemeTexts es
  | _ :: es => lexemeTexts es

def afterAll (c : Cursor) : List Call → Cursor
  | [] => c
  | call :: calls =>
    match c.perform call with
    | .error _ => c.afterAll calls
    | .ok (_, c') => c'.afterAll calls

/-- A call either emits the pending run and empties it, or adds the characters it consumes to
the pending run. -/
theorem Call.onText_ok {s : List Char} {i p i' p' : Nat} {call : Call} {a : Answer}
    (h : call.onText s i p = .ok (a, i', p')) :
    (∃ l, a = .lexeme l ∧ l.text = String.ofList ((s.drop (i - p)).take p) ∧ i' = i ∧ p' = 0) ∨
      ((∀ l, a ≠ .lexeme l) ∧ ∃ k, i' = i + k ∧ p' = p + k) := by
  have moved : ∀ k, i' = i + k → p' = p + k → (∀ l, a ≠ .lexeme l) →
      (∃ l, a = .lexeme l ∧ l.text = String.ofList ((s.drop (i - p)).take p) ∧ i' = i ∧
        p' = 0) ∨ ((∀ l, a ≠ .lexeme l) ∧ ∃ k, i' = i + k ∧ p' = p + k) :=
    fun k hi hp ha => .inr ⟨ha, k, hi, hp⟩
  cases call with
  | emit =>
    simp only [Call.onText] at h
    split at h
    · cases h
    · simp only [Except.ok.injEq, Prod.mk.injEq] at h
      obtain ⟨rfl, rfl, rfl⟩ := h
      exact .inl ⟨_, rfl, rfl, rfl, rfl⟩
  | matchSeq tests =>
    simp only [Call.onText] at h
    split at h <;> simp only [Except.ok.injEq, Prod.mk.injEq] at h <;>
      obtain ⟨rfl, rfl, rfl⟩ := h
    · exact moved tests.length rfl rfl (by simp)
    · exact moved 0 rfl rfl (by simp)
  | matchChar x =>
    simp only [Call.onText] at h
    split at h <;> simp only [Except.ok.injEq, Prod.mk.injEq] at h <;>
      obtain ⟨rfl, rfl, rfl⟩ := h
    · exact moved 1 rfl rfl (by simp)
    · exact moved 0 rfl rfl (by simp)
  | matchAny =>
    simp only [Call.onText] at h
    split at h <;> simp only [Except.ok.injEq, Prod.mk.injEq] at h <;>
      obtain ⟨rfl, rfl, rfl⟩ := h
    · exact moved 1 rfl rfl (by simp)
    · exact moved 0 rfl rfl (by simp)
  | matchWhile test =>
    simp only [Call.onText, Except.ok.injEq, Prod.mk.injEq] at h
    obtain ⟨rfl, rfl, rfl⟩ := h
    exact moved _ rfl rfl (by simp)
  | has n | peek tests | peekChar x | current | isAtEnd | index | pending | remaining =>
    simp only [Call.onText, Except.ok.injEq, Prod.mk.injEq] at h
    obtain ⟨rfl, rfl, rfl⟩ := h
    exact moved 0 rfl rfl (by simp)

theorem Represents.pendingText_grow {s : String} {c c' : Cursor} (h : Represents s c)
    (h' : Represents s c') {k : Nat} (hi : c'.index = c.index + k) (hp : c'.pending = c.pending + k) :
    c'.pendingText = c.pendingText ++ String.ofList ((s.toList.drop c.index).take k) := by
  have hle := h.pending_le
  rw [h.pendingText_eq, h'.pendingText_eq, hi, hp, ← String.ofList_append,
    show c.index + k - (c.pending + k) = c.index - c.pending by omega, List.take_add,
    List.drop_drop, show c.index - c.pending + c.pending = c.index by omega]

theorem lexemeTexts_cons_of_ne {a : Answer} (ha : ∀ l, a ≠ .lexeme l) (c' : Cursor)
    (es : List (Except Fault Answer × Cursor)) :
    lexemeTexts ((.ok a, c') :: es) = lexemeTexts es := by
  cases a with
  | lexeme l => exact absurd rfl (ha l)
  | flag b | count n | char x | text t => rfl

/-- What the emits of a run hand out, followed by what is pending at its end, is what was
pending at its start followed by every character the run consumed. -/
theorem Represents.lexemeTexts_performAll {s : String} {c : Cursor} (h : Represents s c)
    (calls : List Call) :
    Represents s (c.afterAll calls) ∧ c.index ≤ (c.afterAll calls).index ∧
      String.join (lexemeTexts (c.performAll calls)) ++ (c.afterAll calls).pendingText =
        c.pendingText ++
          String.ofList ((s.toList.drop c.index).take ((c.afterAll calls).index - c.index)) := by
  induction calls generalizing c with
  | nil =>
    simp only [afterAll, Cursor.performAll, lexemeTexts]
    simpa using h
  | cons call calls ih =>
    obtain ⟨hview, hkeep⟩ := h.perform call
    cases hc : c.perform call with
    | error f =>
      simpa [afterAll, Cursor.performAll, hc, lexemeTexts] using ih h
    | ok r =>
      obtain ⟨a, c'⟩ := r
      simp only [hc, Except.map] at hview
      have h' := hkeep a c' hc
      obtain ⟨hR, hle, hcat⟩ := ih h'
      simp only [afterAll, Cursor.performAll, hc]
      rcases Call.onText_ok hview.symm with ⟨l, rfl, hl, hi, hp⟩ | ⟨hna, k, hi, hp⟩
      · -- an emit hands out the whole pending run and starts an empty one where it stands
        have hempty : c'.pendingText = "" := by simp [h'.pendingText_eq, hp]
        refine ⟨hR, hi ▸ hle, ?_⟩
        rw [lexemeTexts, String.join_cons, String.append_assoc, hcat, hempty, hi, hl,
          ← h.pendingText_eq, String.empty_append]
      · have hgrow := h.pendingText_grow h' hi hp
        refine ⟨hR, by omega, ?_⟩
        rw [lexemeTexts_cons_of_ne hna, hcat, hgrow, String.append_assoc, ← String.ofList_append,
          hi, ← List.drop_drop, ← List.take_add]
        congr 3
        omega

/-- Along every run of calls from the start of a text, the cursor stays in step with the text;
each call answers and moves the character index and the pending count exactly as the same
call read off the text does; and what the emits hand out, followed by what is still pending,
spells the characters consumed so far. -/
theorem performAll_start_onText (s : String) (calls : List Call) :
    (∀ e ∈ (start s).performAll calls, Represents s e.2) ∧
      ((start s).performAll calls).map (fun e => (e.1, e.2.index, e.2.pending)) =
        Call.runOnText s.toList 0 0 calls ∧
      String.join (lexemeTexts ((start s).performAll calls)) ++
          ((start s).afterAll calls).pendingText =
        String.ofList (s.toList.take ((start s).afterAll calls).index) := by
  obtain ⟨hall, hrun⟩ := (represents_start s).performAll calls
  obtain ⟨-, -, hcat⟩ := (represents_start s).lexemeTexts_performAll calls
  have hnone : (start s).pendingText = "" := by simp [(represents_start s).pendingText_eq]
  refine ⟨hall, hrun, ?_⟩
  simpa [hnone] using hcat

end Cursor

end Lexis
