import Lexis.LineIndex
import Lexis.Proofs.Utf8

/-!
The line index read off its text. Beside the start of the first line, the table of line starts
holds one entry for each line feed: the character offset just after it, and the byte offset of
that same character. So the character offsets increase, and every byte offset falls between two
characters.

The halving search of `lineCol` answers as documented on a sorted table (`binarySearchBy_answer`),
so it finds the last line that starts at or before an offset. Main statements: `lineCol_counts`,
the line and column of an offset from the line feeds before it, and `line?_eq_piece`, the text of
a line as the piece of the text between two line feeds, cut out between two character boundaries.
-/

namespace Lexis

/-! ### The halving search -/

section Search

variable {α : Type} {a : Array α} {cmp : α → Ordering}

/-- Along the table the comparison answers `lt`, then `eq`, then `gt`. -/
structure SearchOrdered (a : Array α) (cmp : α → Ordering) : Prop where
  lt_of_le : ∀ i j (hi : i < a.size) (hj : j < a.size), i ≤ j → cmp a[j] = .lt → cmp a[i] = .lt
  gt_of_le : ∀ i j (hi : i < a.size) (hj : j < a.size), i ≤ j → cmp a[i] = .gt → cmp a[j] = .gt

/-- What a halving search answers, as documented: the position of an entry at what is sought, or
the position that parts the entries below it from the entries above it. -/
def SearchAnswer (a : Array α) (cmp : α → Ordering) : Except Nat Nat → Prop
  | .ok m => ∃ h : m < a.size, cmp a[m] = .eq
  | .error j => j ≤ a.size ∧ (∀ i (h : i < a.size), i < j → cmp a[i] = .lt) ∧
      ∀ i (h : i < a.size), j ≤ i → cmp a[i] = .gt

/-- The search between `lo` and `hi` keeps the entries before `lo` below and those from `hi` on
above what is sought. -/
theorem searchWithin_answer (hord : SearchOrdered a cmp) {lo hi : Nat} (hhi : hi ≤ a.size)
    (hlo : lo ≤ hi) (hbelow : ∀ i (h : i < a.size), i < lo → cmp a[i] = .lt)
    (habove : ∀ i (h : i < a.size), hi ≤ i → cmp a[i] = .gt) :
    SearchAnswer a cmp (searchWithin a cmp lo hi hhi) := by
  fun_induction searchWithin a cmp lo hi hhi with
  | case1 lo hi hhi hlt mid hmid hcmp ih =>
    -- below at `mid`: so is every entry up to `mid`
    refine ih (by omega) (fun i hi hlt' => hord.lt_of_le i mid hi hmid (by omega) hcmp) habove
  | case2 lo hi hhi hlt mid hmid hcmp ih =>
    -- above at `mid`: so is every entry from `mid` on
    exact ih (by omega) hbelow (fun i hi hge => hord.gt_of_le mid i hmid hi hge hcmp)
  | case3 lo hi hhi hlt mid hmid hcmp => exact ⟨hmid, hcmp⟩
  | case4 lo hi hhi hge =>
    exact ⟨by omega, hbelow, fun i hi hle => habove i hi (by omega)⟩

theorem binarySearchBy_answer (hord : SearchOrdered a cmp) :
    SearchAnswer a cmp (binarySearchBy a cmp) :=
  searchWithin_answer hord _ (Nat.zero_le _) (fun _ _ h => absurd h (Nat.not_lt_zero _))
    (fun _ _ h => absurd h (Nat.not_le.mpr ‹_›))

end Search

/-! ### Finding the line of an offset -/

namespace LineIndex

variable {idx : LineIndex}

/-- The lines of an index start at strictly increasing character offsets, the first at 0. -/
structure Sorted (idx : LineIndex) : Prop where
  increasing : idx.starts.toList.Pairwise fun p q => p.1 < q.1
  first : ∃ h : 0 < idx.starts.size, idx.starts[0].1 = 0

theorem Sorted.lt_of_lt (h : idx.Sorted) {i j : Nat} (hi : i < idx.starts.size)
    (hj : j < idx.starts.size) (hij : i < j) : idx.starts[i].1 < idx.starts[j].1 := by
  have := List.pairwise_iff_getElem.mp h.increasing i j (by simpa using hi) (by simpa using hj) hij
  simpa using this

theorem Sorted.le_of_le (h : idx.Sorted) {i j : Nat} (hi : i < idx.starts.size)
    (hj : j < idx.starts.size) (hij : i ≤ j) : idx.starts[i].1 ≤ idx.starts[j].1 := by
  rcases Nat.lt_or_eq_of_le hij with hlt | rfl
  · exact Nat.le_of_lt (h.lt_of_lt hi hj hlt)
  · exact Nat.le_refl _

theorem Sorted.searchOrdered (h : idx.Sorted) (key : Nat) :
    SearchOrdered idx.starts fun p => compare p.1 key where
  lt_of_le i j hi hj hij hlt := by
    rw [Nat.compare_eq_lt] at hlt ⊢
    exact Nat.lt_of_le_of_lt (h.le_of_le hi hj hij) hlt
  gt_of_le i j hi hj hij hgt := by
    rw [Nat.compare_eq_gt] at hgt ⊢
    exact Nat.lt_of_lt_of_le hgt (h.le_of_le hi hj hij)

/-- On a sorted index, `lineCol` finds the last line that starts at or before the offset: its
line number is one more than its position in the table, and its column counts from its start. -/
theorem Sorted.lineCol_eq (h : idx.Sorted) (n : Nat) :
    ∃ m, ∃ hm : m < idx.starts.size, idx.lineCol n = (m + 1, n - idx.starts[m].1 + 1) ∧
      idx.starts[m].1 ≤ n ∧ ∀ j (hj : j < idx.starts.size), idx.starts[j].1 ≤ n → j ≤ m := by
  have hanswer := binarySearchBy_answer (h.searchOrdered n)
  cases hs : binarySearchBy idx.starts (fun p => compare p.1 n) with
  | ok m =>
    -- a line starts at the offset itself
    rw [hs] at hanswer
    obtain ⟨hm, heq⟩ := hanswer
    rw [Nat.compare_eq_eq] at heq
    refine ⟨m, hm, ?_, Nat.le_of_eq heq, fun j hj hle => ?_⟩
    · simp [lineCol, hs, hm]
    · by_contra hmj
      have hlt := h.lt_of_lt hm hj (Nat.lt_of_not_le hmj)
      omega
  | error j =>
    -- no line starts at the offset; the one it lies on is just before the insertion point
    rw [hs] at hanswer
    obtain ⟨hj, hbelow, habove⟩ := hanswer
    obtain ⟨h0, hfirst⟩ := h.first
    have hpos : 0 < j := Nat.pos_of_ne_zero fun hj0 => by
      have hgt := habove 0 h0 (by omega)
      rw [Nat.compare_eq_gt, hfirst] at hgt
      exact Nat.not_lt_zero _ hgt
    have hm : j - 1 < idx.starts.size := by omega
    refine ⟨j - 1, hm, ?_, ?_, fun i hi hle => ?_⟩
    · simp [lineCol, hs, hm]
    · exact Nat.le_of_lt (Nat.compare_eq_lt.mp (hbelow (j - 1) hm (by omega)))
    · have hnot : ¬compare idx.starts[i].1 n = .gt := by
        rw [Nat.compare_eq_gt]
        exact Nat.not_lt.mpr hle
      have hij : i < j := Nat.lt_of_not_le fun hji => hnot (habove i hi hji)
      omega

/-- On a sorted index the lines that start at or before an offset are the first `m + 1`, where
`m` is the position of the line that `lineCol` finds. -/
theorem Sorted.countP_eq (h : idx.Sorted) {n m : Nat} (hm : m < idx.starts.size)
    (hle : idx.starts[m].1 ≤ n)
    (hlast : ∀ j (hj : j < idx.starts.size), idx.starts[j].1 ≤ n → j ≤ m) :
    idx.starts.toList.countP (fun p => decide (p.1 ≤ n)) = m + 1 := by
  rw [← List.take_append_drop (m + 1) idx.starts.toList, List.countP_append]
  have hbefore : (idx.starts.toList.take (m + 1)).countP (fun p => decide (p.1 ≤ n)) = m + 1 := by
    rw [List.countP_eq_length.mpr, List.length_take, Array.length_toList]
    · omega
    · intro p hp
      obtain ⟨k, hk, rfl⟩ := List.mem_iff_getElem.mp hp
      simp only [List.length_take, Array.length_toList] at hk
      simp only [List.getElem_take, Array.getElem_toList, decide_eq_true_eq]
      exact Nat.le_trans (h.le_of_le (by omega) hm (by omega)) hle
  have hafter : (idx.starts.toList.drop (m + 1)).countP (fun p => decide (p.1 ≤ n)) = 0 := by
    rw [List.countP_eq_zero]
    intro p hp
    obtain ⟨k, hk, rfl⟩ := List.mem_iff_getElem.mp hp
    simp only [List.length_drop, Array.length_toList] at hk
    simp only [List.getElem_drop, Array.getElem_toList, decide_eq_true_eq]
    intro hkle
    have := hlast (m + 1 + k) (by omega) hkle
    omega
  rw [hbefore, hafter]

end LineIndex

/-! ### The table of a text -/

section Table

variable {i b : Nat} {cs : List Char}

theorem lineFeedEnds_lineFeed (r : List Char) :
    lineFeedEnds i b ('\n' :: r) = (i + 1, b + 1) :: lineFeedEnds (i + 1) (b + 1) r := by
  simp [lineFeedEnds]
  rfl

/-- An entry of the table stands just after a line feed, and its byte offset is the encoded
length of the characters before it. -/
theorem mem_lineFeedEnds {x : Nat × Nat} :
    x ∈ lineFeedEnds i b cs ↔
      ∃ j, cs[j]? = some '\n' ∧ x = (i + j + 1, b + utf8Length (cs.take (j + 1))) := by
  induction cs generalizing i b with
  | nil => simp [lineFeedEnds]
  | cons c cs ih =>
    -- the entries of the rest are those of the whole one character further on
    by_cases hc : c = '\n'
    · subst hc
      have hlf : '\n'.utf8Size = 1 := rfl
      rw [lineFeedEnds_lineFeed, List.mem_cons, ih]
      constructor
      · rintro (rfl | ⟨j, hj, rfl⟩)
        · exact ⟨0, rfl, by simp [hlf]⟩
        · exact ⟨j + 1, by simpa using hj, by simp [hlf]; omega⟩
      · rintro ⟨_ | j, hj, rfl⟩
        · left; simp [hlf]
        · right; exact ⟨j, by simpa using hj, by simp [hlf]; omega⟩
    · simp only [lineFeedEnds, if_neg hc, ih]
      constructor
      · rintro ⟨j, hj, rfl⟩
        exact ⟨j + 1, by simpa using hj, by simp; omega⟩
      · rintro ⟨_ | j, hj, rfl⟩
        · exact absurd (Option.some.inj hj) hc
        · exact ⟨j, by simpa using hj, by simp; omega⟩

theorem lt_of_mem_lineFeedEnds {x : Nat × Nat} (hx : x ∈ lineFeedEnds i b cs) : i < x.1 := by
  obtain ⟨j, -, rfl⟩ := mem_lineFeedEnds.mp hx
  simp only
  omega

theorem lineFeedEnds_pairwise : (lineFeedEnds i b cs).Pairwise fun p q => p.1 < q.1 := by
  induction cs generalizing i b with
  | nil => exact List.Pairwise.nil
  | cons c cs ih =>
    unfold lineFeedEnds
    split
    · exact List.Pairwise.cons (fun q hq => lt_of_mem_lineFeedEnds hq) ih
    · exact ih

theorem length_lineFeedEnds : (lineFeedEnds i b cs).length = cs.count '\n' := by
  induction cs generalizing i b with
  | nil => rfl
  | cons c cs ih =>
    unfold lineFeedEnds
    by_cases hc : c = '\n'
    · simp [hc, ih]
    · simp [hc, ih]

/-- The entries at or before `n` characters past `i` are one for each line feed among the first
`n` characters. -/
theorem countP_lineFeedEnds (n : Nat) :
    (lineFeedEnds i b cs).countP (fun p => decide (p.1 ≤ i + n)) = (cs.take n).count '\n' := by
  induction cs generalizing i b n with
  | nil => simp [lineFeedEnds]
  | cons c cs ih =>
    cases n with
    | zero =>
      simp only [Nat.add_zero, List.take_zero, List.count_nil, List.countP_eq_zero,
        decide_eq_true_eq]
      intro x hx
      have := lt_of_mem_lineFeedEnds hx
      omega
    | succ n =>
      -- one character further on, the bound `i + (n + 1)` is `(i + 1) + n`
      by_cases hc : c = '\n'
      · subst hc
        have hstep := @ih (i + 1) (b + 1) n
        rw [show i + 1 + n = i + (n + 1) by omega] at hstep
        rw [lineFeedEnds_lineFeed, List.countP_cons, hstep]
        simp
      · have hstep := @ih (i + 1) (b + c.utf8Size) n
        rw [show i + 1 + n = i + (n + 1) by omega] at hstep
        rw [lineFeedEnds, if_neg hc, hstep]
        simp [hc]

theorem lineFeedEnds_append {p : List Char} (hp : '\n' ∉ p) (r : List Char) :
    lineFeedEnds i b (p ++ r) = lineFeedEnds (i + p.length) (b + utf8Length p) r := by
  induction p generalizing i b with
  | nil => rfl
  | cons c p ih =>
    have hc : c ≠ '\n' := fun h => hp (h ▸ List.mem_cons_self)
    rw [List.cons_append, lineFeedEnds, if_neg hc, ih (fun h => hp (List.mem_cons_of_mem _ h))]
    simp only [List.length_cons, utf8Length_cons]
    congr 1 <;> omega

end Table

/-! ### The index of a text -/

namespace LineIndex

theorem ofString_starts_toList (s : String) :
    (ofString s).starts.toList = (0, 0) :: lineFeedEnds 0 0 s.toList := rfl

theorem ofString_sorted (s : String) : (ofString s).Sorted where
  increasing := by
    rw [ofString_starts_toList]
    exact List.Pairwise.cons (fun _ hq => lt_of_mem_lineFeedEnds hq) lineFeedEnds_pairwise
  first := ⟨by simp [ofString], rfl⟩

theorem lineCount_ofString (s : String) : (ofString s).lineCount = s.toList.count '\n' + 1 := by
  simp [lineCount, ofString, length_lineFeedEnds]

theorem countP_ofString (s : String) (n : Nat) :
    (ofString s).starts.toList.countP (fun p => decide (p.1 ≤ n)) =
      (s.toList.take n).count '\n' + 1 := by
  have hfeeds := @countP_lineFeedEnds 0 0 s.toList n
  rw [Nat.zero_add] at hfeeds
  rw [ofString_starts_toList, List.countP_cons, hfeeds]
  simp

/-- The line starts of a text: 0, and the offset just after each line feed, each with the encoded
length of the characters before it. -/
theorem mem_ofString_starts {s : String} {x : Nat × Nat} :
    x ∈ (ofString s).starts.toList ↔ x = (0, 0) ∨
      ∃ j, s.toList[j]? = some '\n' ∧ x = (j + 1, utf8Length (s.toList.take (j + 1))) := by
  rw [ofString_starts_toList, List.mem_cons, mem_lineFeedEnds]
  simp

/-- A line starts at 0 or just after a line feed. -/
theorem start_zero_or_after_lineFeed (s : String) {m : Nat} (hm : m < (ofString s).starts.size) :
    (ofString s).starts[m].1 = 0 ∨ s.toList[(ofString s).starts[m].1 - 1]? = some '\n' := by
  have hmem : (ofString s).starts[m] ∈ (ofString s).starts.toList := by simp
  rcases mem_ofString_starts.mp hmem with h0 | ⟨j, hj, hx⟩
  · exact .inl (by rw [h0])
  · exact .inr (by rw [hx]; simpa using hj)

/-- No line feed stands between the start of the last line that starts at or before `n`, and
`n`: it would start a later line at or before `n`. -/
theorem no_lineFeed_within (s : String) {n m : Nat} (hm : m < (ofString s).starts.size)
    (hlast : ∀ j (hj : j < (ofString s).starts.size), (ofString s).starts[j].1 ≤ n → j ≤ m) :
    ∀ j, (ofString s).starts[m].1 ≤ j → j < n → s.toList[j]? ≠ some '\n' := by
  intro j hpj hjn hj
  obtain ⟨k, hk, hkx⟩ := List.mem_iff_getElem.mp
    (mem_ofString_starts.mpr (.inr ⟨j, hj, rfl⟩) : (j + 1, utf8Length (s.toList.take (j + 1))) ∈
      (ofString s).starts.toList)
  simp only [Array.length_toList, Array.getElem_toList] at hk hkx
  have hstart : (ofString s).starts[k].1 = j + 1 := by rw [hkx]
  have hkm := hlast k hk (by omega)
  have := (ofString_sorted s).le_of_le hk hm hkm
  omega

/-- The line and column of a character offset `n` count line feeds: the line is one more than
the number of line feeds before `n`, and the column counts from `p`, the offset just after the
last of them, or 0 when there is none. So the line lies between 1 and the number of lines, the
column is at least 1, and an offset at or past the end lands on the last line. -/
theorem lineCol_counts (s : String) (n : Nat) :
    (ofString s).lineCount = s.toList.count '\n' + 1 ∧
    ∃ p, p ≤ n ∧ (p = 0 ∨ s.toList[p - 1]? = some '\n') ∧
      (∀ j, p ≤ j → j < n → s.toList[j]? ≠ some '\n') ∧
      (ofString s).lineCol n = ((s.toList.take n).count '\n' + 1, n - p + 1) ∧
      1 ≤ ((ofString s).lineCol n).1 ∧ ((ofString s).lineCol n).1 ≤ (ofString s).lineCount ∧
      1 ≤ ((ofString s).lineCol n).2 ∧
      (s.length ≤ n → ((ofString s).lineCol n).1 = (ofString s).lineCount) := by
  obtain ⟨m, hm, hlc, hle, hlast⟩ := (ofString_sorted s).lineCol_eq n
  have hcount := (ofString_sorted s).countP_eq hm hle hlast
  rw [countP_ofString] at hcount
  have hsize : (ofString s).starts.size = (ofString s).lineCount := rfl
  refine ⟨lineCount_ofString s, (ofString s).starts[m].1, hle, start_zero_or_after_lineFeed s hm,
    no_lineFeed_within s hm hlast, ?_⟩
  rw [hlc, ← hcount]
  refine ⟨rfl, Nat.le_add_left _ _, by omega, Nat.le_add_left _ _, fun hend => ?_⟩
  have htake : s.toList.take n = s.toList :=
    List.take_of_length_le (by rw [String.length_toList]; exact hend)
  rw [htake, lineCount_ofString]

example : (ofString "a\nbc\n\nd").lineCol 5 = (3, 1) := by decide +kernel

end LineIndex

/-! ### The text of a line -/

/-- Line `k` of the text `src`, as the table `U` of line starts and the pieces `ps` of the text
between its line feeds have it, runs over the characters from `c` up to `e`: the table holds `c`
with its byte offset, the next entry less one (or the end of the text) is the byte offset of `e`,
where a line feed stands unless the text ends there, and the characters between are the `k`-th
piece. -/
structure LineRange (src : List Char) (U : List (Nat × Nat)) (ps : List (List Char))
    (k c e : Nat) : Prop where
  start_eq : U[k]? = some (c, utf8Length (src.take c))
  stop_eq : (U[k + 1]?.map fun q => q.2 - 1).getD (utf8Length src) = utf8Length (src.take e)
  le : c ≤ e
  le_length : e ≤ src.length
  ends : e = src.length ∨ src[e]? = some '\n'
  piece : ps[k]? = some ((src.drop c).take (e - c))

theorem LineRange.cons {src : List Char} {U : List (Nat × Nat)} {ps : List (List Char)}
    {k c e : Nat} (h : LineRange src U ps k c e) (x : Nat × Nat) (q : List Char) :
    LineRange src (x :: U) (q :: ps) (k + 1) c e where
  start_eq := by simpa using h.start_eq
  stop_eq := by simpa using h.stop_eq
  le := h.le
  le_length := h.le_length
  ends := h.ends
  piece := by simpa using h.piece

/-- Each line of the rest `cs` of a text after `pre` runs between two entries of the table of
`cs`; the first line up to the first line feed of `cs`, and the others as the lines of what
follows that line feed. -/
theorem lineRange_of_suffix (pre cs : List Char) (k : Nat) (hk : k ≤ cs.count '\n') :
    ∃ c e, LineRange (pre ++ cs)
      ((pre.length, utf8Length pre) :: lineFeedEnds pre.length (utf8Length pre) cs)
      (cs.splitOn '\n') k c e := by
  by_cases hlf : '\n' ∈ cs
  · obtain ⟨p, r, rfl, hp⟩ := List.eq_append_cons_of_mem hlf
    have hlfSize : '\n'.utf8Size = 1 := rfl
    have htable : lineFeedEnds pre.length (utf8Length pre) (p ++ '\n' :: r) =
        ((pre ++ p ++ ['\n']).length, utf8Length (pre ++ p ++ ['\n'])) ::
          lineFeedEnds (pre ++ p ++ ['\n']).length (utf8Length (pre ++ p ++ ['\n'])) r := by
      rw [lineFeedEnds_append hp, lineFeedEnds_lineFeed]
      simp [utf8Length_append, hlfSize, Nat.add_assoc]
    rw [htable, List.splitOn_append_cons_self_of_not_mem hp r]
    cases k with
    | zero =>
      -- the first line ends at the first line feed
      have hsrc : pre ++ (p ++ '\n' :: r) = (pre ++ p) ++ '\n' :: r := by simp
      refine ⟨pre.length, pre.length + p.length, ⟨?_, ?_, ?_, ?_, ?_, ?_⟩⟩
      · simp
      · rw [hsrc, List.take_left' (by simp)]
        simp [utf8Length_append, hlfSize]
      · exact Nat.le_add_right _ _
      · simp
      · right
        rw [hsrc, List.getElem?_append_right (by simp)]
        simp
      · simp
    | succ k =>
      -- the other lines are those of the text after the first line feed
      have hk' : k ≤ r.count '\n' := by
        simp [List.count_append, List.count_eq_zero.mpr hp] at hk
        omega
      obtain ⟨c, e, h⟩ := lineRange_of_suffix (pre ++ p ++ ['\n']) r k hk'
      have hsrc : pre ++ p ++ ['\n'] ++ r = pre ++ (p ++ '\n' :: r) := by simp
      rw [hsrc] at h
      exact ⟨c, e, h.cons _ _⟩
  · -- no line feed is left: one line, up to the end of the text
    have hnil : lineFeedEnds pre.length (utf8Length pre) cs = [] :=
      List.eq_nil_of_length_eq_zero (by rw [length_lineFeedEnds, List.count_eq_zero]; exact hlf)
    have hk0 : k = 0 := by
      rw [List.count_eq_zero.mpr hlf] at hk
      omega
    subst hk0
    rw [hnil, List.splitOn_eq_singleton hlf]
    refine ⟨pre.length, (pre ++ cs).length, ⟨?_, ?_, ?_, ?_, .inl rfl, ?_⟩⟩
    · simp
    · rw [List.take_length]
      rfl
    · simp
    · exact Nat.le_refl _
    · simp
termination_by cs.length

namespace LineIndex

/-- Every line of a text runs between two entries of its line index. -/
theorem lineRange_ofString (s : String) {k : Nat} (hk : k < (ofString s).lineCount) :
    ∃ c e, LineRange s.toList (ofString s).starts.toList (s.toList.splitOn '\n') k c e := by
  have hrange := lineRange_of_suffix [] s.toList k (by rw [lineCount_ofString] at hk; omega)
  simpa [ofString_starts_toList] using hrange

/-- The line that `lineCol` finds for an offset runs from a start at or before the offset, and no
line feed stands between that start and the offset. -/
theorem lineCol_lineRange (s : String) (n : Nat) :
    ∃ m c e, (ofString s).lineCol n = (m + 1, n - c + 1) ∧ c ≤ n ∧
      (∀ j, c ≤ j → j < n → s.toList[j]? ≠ some '\n') ∧
      LineRange s.toList (ofString s).starts.toList (s.toList.splitOn '\n') m c e := by
  obtain ⟨m, hm, hlc, hle, hlast⟩ := (ofString_sorted s).lineCol_eq n
  obtain ⟨c, e, hrange⟩ := lineRange_ofString s (show m < (ofString s).lineCount from hm)
  have hc : (ofString s).starts[m].1 = c := by
    have hstart := hrange.start_eq
    rw [Array.getElem?_toList, Array.getElem?_eq_getElem hm, Option.some.injEq] at hstart
    rw [hstart]
  have hnone := no_lineFeed_within s hm hlast
  rw [hc] at hlc hle hnone
  exact ⟨m, c, e, hlc, hle, hnone, hrange⟩

end LineIndex

namespace LineRange

open LineIndex

variable {s : String} {k c e : Nat}

theorem lineBytes?_eq
    (h : LineRange s.toList (ofString s).starts.toList (s.toList.splitOn '\n') k c e) :
    (ofString s).lineBytes? (k + 1) =
      some (utf8Length (s.toList.take c), utf8Length (s.toList.take e)) := by
  have hstart : (ofString s).starts[k]? = some (c, utf8Length (s.toList.take c)) := by
    simpa using h.start_eq
  have hstop := h.stop_eq
  rw [Array.getElem?_toList, utf8Length_toList] at hstop
  simp only [lineBytes?, hstart, Option.map_some]
  rw [show (ofString s).source = s from rfl, hstop]

theorem line?_eq
    (h : LineRange s.toList (ofString s).starts.toList (s.toList.splitOn '\n') k c e) :
    (ofString s).line? (k + 1) =
      some (String.ofList (dropCarriageReturn ((s.toList.drop c).take (e - c)))) := by
  have hle : e ≤ s.length := by
    rw [← String.length_toList]
    exact h.le_length
  rw [line?, h.lineBytes?_eq, Option.map_some, show (ofString s).source = s from rfl,
    extract_utf8Length_take s h.le hle, String.toList_ofList]

end LineRange

theorem length_splitOn_lineFeed (cs : List Char) :
    (cs.splitOn '\n').length = cs.count '\n' + 1 := by
  induction cs with
  | nil => rfl
  | cons c cs ih =>
    rw [List.splitOn_cons_eq_if_modifyHead]
    by_cases hc : c = '\n'
    · simp [hc, ih]
    · simp [hc, ih]

namespace LineIndex

theorem lineBytes?_eq_none_iff {idx : LineIndex} {l : Nat} :
    idx.lineBytes? l = none ↔ l = 0 ∨ idx.lineCount < l := by
  cases l with
  | zero => simp [lineBytes?]
  | succ k => simp [lineBytes?, lineCount]

theorem line?_eq_none_iff {idx : LineIndex} {l : Nat} :
    idx.line? l = none ↔ l = 0 ∨ idx.lineCount < l := by
  rw [line?, Option.map_eq_none_iff, lineBytes?_eq_none_iff]

/-- Each entry of the line index of a text holds a character offset into the text and the byte
offset of that same character. -/
theorem starts_designate (s : String) :
    ∀ p ∈ (ofString s).starts, p.1 ≤ s.length ∧ p.2 = utf8Length (s.toList.take p.1) := by
  intro p hp
  rcases mem_ofString_starts.mp (Array.mem_def.mp hp) with rfl | ⟨j, hj, rfl⟩
  · simp
  · have hlt : j < s.toList.length := (List.getElem?_eq_some_iff.mp hj).1
    exact ⟨by rw [← String.length_toList]; exact hlt, rfl⟩

theorem line?_ofString (s : String) {l : Nat} (hl : l ≠ 0) :
    (ofString s).line? l = (s.toList.splitOn '\n')[l - 1]?.map fun piece =>
      String.ofList (dropCarriageReturn piece) := by
  obtain ⟨k, rfl⟩ : ∃ k, l = k + 1 := ⟨l - 1, by omega⟩
  rw [Nat.add_sub_cancel]
  by_cases hk : k < (ofString s).lineCount
  · obtain ⟨c, e, h⟩ := lineRange_ofString s hk
    rw [h.line?_eq, h.piece, Option.map_some]
  · -- past the last line there is no piece either
    have hnone : (s.toList.splitOn '\n')[k]? = none := by
      rw [List.getElem?_eq_none_iff, length_splitOn_lineFeed, ← lineCount_ofString]
      omega
    rw [hnone, Option.map_none, line?_eq_none_iff]
    omega

/-- The two byte offsets that cut a line out of its text are character boundaries, the first at
or before the second. -/
theorem lineBytes?_isValid (s : String) {l a b : Nat}
    (h : (ofString s).lineBytes? l = some (a, b)) :
    a ≤ b ∧ String.Pos.Raw.IsValid s ⟨a⟩ ∧ String.Pos.Raw.IsValid s ⟨b⟩ := by
  have hl : ¬(l = 0 ∨ (ofString s).lineCount < l) := fun hl => by
    rw [lineBytes?_eq_none_iff.mpr hl] at h
    cases h
  obtain ⟨k, rfl⟩ : ∃ k, l = k + 1 := ⟨l - 1, by omega⟩
  obtain ⟨c, e, hrange⟩ := lineRange_ofString s (show k < (ofString s).lineCount by omega)
  rw [hrange.lineBytes?_eq, Option.some.injEq, Prod.mk.injEq] at h
  obtain ⟨rfl, rfl⟩ := h
  refine ⟨?_, String.Pos.Raw.isValid_iff_exists_take_toList.mpr ⟨c, rfl⟩,
    String.Pos.Raw.isValid_iff_exists_take_toList.mpr ⟨e, rfl⟩⟩
  rw [utf8Length_take_split s.toList hrange.le]
  exact Nat.le_add_right _ _

/-- The text of a line is the piece of its text between two line feeds, less one carriage
return at its end: `line? l` is `none` exactly for line 0 and for lines past the last, and
otherwise the `l`-th piece of the text split at its line feeds. Beside each character offset the
index keeps the byte offset of that same character, and the two byte offsets that cut a line out
of the text are character boundaries in order, so the cut never falls inside a character. -/
theorem line?_eq_piece (s : String) (l : Nat) :
    ((ofString s).line? l = none ↔ l = 0 ∨ (ofString s).lineCount < l) ∧
    (l ≠ 0 → (ofString s).line? l =
      (s.toList.splitOn '\n')[l - 1]?.map fun piece => String.ofList (dropCarriageReturn piece)) ∧
    (∀ p ∈ (ofString s).starts, p.1 ≤ s.length ∧ p.2 = utf8Length (s.toList.take p.1)) ∧
    (∀ a b, (ofString s).lineBytes? l = some (a, b) →
      a ≤ b ∧ String.Pos.Raw.IsValid s ⟨a⟩ ∧ String.Pos.Raw.IsValid s ⟨b⟩) :=
  ⟨line?_eq_none_iff, line?_ofString s, starts_designate s, fun _ _ h => lineBytes?_isValid s h⟩

example : (ofString "first\r\nsecond\n").line? 1 = some "first" := by decide +kernel

end LineIndex

end Lexis
