import Lexis.Lexer.Extent
import Lexis.Proofs.Grammar

/-!
What each scan reads, in the terms of the grammar. A skip reads trivia. A scan that completes a
token reads the longest prefix of the text ahead that lies in the language of its class
(`Grammar.LongestPrefix`): greedy reading is maximal munch here because every optional part of a
number starts with a character that cannot go on the part before it, and because the character
and string languages are prefix-free, so that a text has at most one prefix in them.
-/

namespace Lexis

open Grammar

namespace Grammar

/-- A language in which no word is a proper prefix of another. -/
def PrefixFree (L : List Char → Prop) : Prop := ∀ u v, L u → L (u ++ v) → v = []

theorem LongestPrefix.of_prefixFree {L : List Char → Prop} {R : List Char} {n : Nat}
    (hL : PrefixFree L) (hn : n ≤ R.length) (hmem : L (R.take n)) : LongestPrefix L R n where
  le_length := hn
  mem := hmem
  maximal := by
    intro m hm hmem'
    apply Nat.le_of_not_lt
    intro hlt
    have hsplit : R.take m = R.take n ++ (R.drop n).take (m - n) := by
      rw [← List.take_add, Nat.add_sub_cancel' (Nat.le_of_lt hlt)]
    have hnil := hL _ _ hmem (hsplit ▸ hmem')
    have hlen : ((R.drop n).take (m - n)).length = m - n := by
      simp only [List.length_take, List.length_drop]
      omega
    rw [hnil, List.length_nil] at hlen
    omega

theorem not_isDigit_of_mark {c : Char} (h : c = '.' ∨ c = 'e' ∨ c = 'E') : ¬IsDigit c := by
  unfold IsDigit
  rcases h with rfl | rfl | rfl <;> decide

theorem not_isSign_of_isDigit {c : Char} (h : IsDigit c) : ¬IsSign c := by
  rintro (rfl | rfl) <;> revert h <;> unfold IsDigit <;> decide

end Grammar

theorem le_length_takeWhile {p : Char → Bool} {l : List Char} {m : Nat} (hm : m ≤ l.length)
    (h : ∀ x ∈ l.take m, p x = true) : m ≤ (l.takeWhile p).length := by
  induction l generalizing m with
  | nil => simp at hm; omega
  | cons x xs ih =>
    cases m with
    | zero => omega
    | succ m =>
      have hx : p x = true := h x (by simp)
      have hrest : m ≤ (xs.takeWhile p).length :=
        ih (by simp at hm; omega) fun y hy => h y (by simp [hy])
      rw [List.takeWhile_cons_of_pos hx, List.length_cons]
      omega

theorem take_length_takeWhile (p : Char → Bool) (l : List Char) :
    l.take (l.takeWhile p).length = l.takeWhile p :=
  (List.prefix_iff_eq_take.mp (List.takeWhile_prefix p)).symm

theorem all_of_mem_takeWhile {p : Char → Bool} {l : List Char} {x : Char}
    (hx : x ∈ l.takeWhile p) : p x = true :=
  List.all_eq_true.mp List.all_takeWhile x hx

namespace Extent

open Chars

/-! ### Skips read trivia -/

theorem blank_trivia (cs : List Char) : Trivia (cs.take (blank cs)) := by
  rw [blank, take_length_takeWhile]
  exact Trivia.of_blanks fun x hx => (isBlank_iff x).mp (all_of_mem_takeWhile hx)

theorem comment_trivia {cs : List Char} {n : Nat} (h : comment cs = some n) :
    Trivia (cs.take n) := by
  match cs, h with
  | a :: b :: r, h =>
    simp only [comment] at h
    split at h
    · next hab =>
      cases h
      simp only [Bool.and_eq_true, isSlash, decide_eq_true_eq] at hab
      obtain ⟨rfl, rfl⟩ := hab
      rw [Nat.add_comm]
      simp only [List.take_succ_cons, take_length_takeWhile]
      apply Trivia.of_comment
      intro x hx hbreak
      have hkeep := all_of_mem_takeWhile hx
      simp [(isLineBreak_iff x).mpr hbreak] at hkeep
    · cases h

theorem comment_le {cs : List Char} {n : Nat} (h : comment cs = some n) : n ≤ cs.length := by
  match cs, h with
  | a :: b :: r, h =>
    simp only [comment] at h
    split at h
    · cases h
      have := (List.takeWhile_prefix (fun c => !isLineBreak c) : r.takeWhile _ <+: r).length_le
      simp only [List.length_cons]
      omega
    · cases h

/-! ### Identifiers -/

theorem identifier_longest {cs : List Char} {n : Nat} (h : identifier cs = some n) :
    LongestPrefix IsIdentifier cs n := by
  match cs, h with
  | c :: r, h =>
    simp only [identifier] at h
    split at h
    · next hc =>
      cases h
      have hrun := (List.takeWhile_prefix isIdentContinue : r.takeWhile _ <+: r).length_le
      refine ⟨by simp; omega, ?_, ?_⟩
      · rw [Nat.add_comm, List.take_succ_cons, take_length_takeWhile]
        exact ⟨(isIdentStart_iff c).mp hc, fun x hx =>
          (isIdentContinue_iff x).mp (all_of_mem_takeWhile hx)⟩
      · intro m hm hid
        cases m with
        | zero => omega
        | succ m =>
          rw [List.take_succ_cons] at hid
          have hcont : ∀ x ∈ r.take m, isIdentContinue x = true :=
            fun x hx => (isIdentContinue_iff x).mpr (hid.2 x hx)
          have := le_length_takeWhile (by simp at hm; omega) hcont
          omega
    · cases h

/-! ### Numbers -/

theorem take_add_add_add (l : List Char) (a b c d : Nat) :
    l.take (a + b + c + d) = l.take a ++ (l.drop a).take b ++ ((l.drop a).drop b).take c ++
      (((l.drop a).drop b).drop c).take d := by
  simp only [List.take_add, List.drop_drop, List.append_assoc, Nat.add_assoc]

theorem isDigit_eq_false {c : Char} (h : ¬IsDigit c) : isDigit c = false :=
  Bool.eq_false_iff.mpr fun hc => h ((isDigit_iff c).mp hc)

theorem digitRun_le (cs : List Char) : digitRun cs ≤ cs.length :=
  (List.takeWhile_prefix isDigit).length_le

theorem digitRun_append {ds u : List Char} (h : ∀ x ∈ ds, IsDigit x) :
    digitRun (ds ++ u) = ds.length + digitRun u := by
  have hds : ∀ x ∈ ds, isDigit x = true := fun x hx => (isDigit_iff x).mpr (h x hx)
  rw [digitRun, List.takeWhile_append_of_pos hds, List.length_append, digitRun]

theorem digitRun_cons_of_not {c : Char} {u : List Char} (h : ¬IsDigit c) :
    digitRun (c :: u) = 0 := by
  simp [digitRun, isDigit_eq_false h]

theorem digits_mem {cs : List Char} (h : digitRun cs ≠ 0) : IsDigits (cs.take (digitRun cs)) := by
  rw [digitRun, take_length_takeWhile] at *
  refine ⟨fun hnil => h (by rw [hnil]; rfl), fun x hx => ?_⟩
  exact (isDigit_iff x).mp (all_of_mem_takeWhile hx)

theorem digits_cons_run {x : Char} (r : List Char) (hx : isDigit x = true) :
    IsDigits (x :: r.takeWhile isDigit) := by
  refine ⟨List.cons_ne_nil _ _, fun y hy => ?_⟩
  rcases List.mem_cons.mp hy with rfl | hy
  · exact (isDigit_iff y).mp hx
  · exact (isDigit_iff y).mp (all_of_mem_takeWhile hy)

theorem sign_le (cs : List Char) : sign cs ≤ cs.length := by
  match cs with
  | s :: d :: r =>
    simp only [sign]
    split <;> simp
  | [] => exact Nat.le_refl _
  | [_] => exact Nat.zero_le _

theorem sign_mem (cs : List Char) : IsOptSign (cs.take (sign cs)) := by
  match cs with
  | s :: d :: r =>
    simp only [sign]
    split
    · next h =>
      simp only [Bool.and_eq_true] at h
      exact .inr ⟨s, rfl, (isSign_iff s).mp h.1⟩
    · exact .inl rfl
  | [] => exact .inl rfl
  | [_] => exact .inl rfl

theorem sign_append {sg ds u : List Char} (hsg : IsOptSign sg) (hds : IsDigits ds) :
    sign (sg ++ ds ++ u) = sg.length := by
  obtain ⟨x, ds', rfl⟩ := List.exists_cons_of_ne_nil hds.1
  have hx : IsDigit x := hds.2 x (by simp)
  rcases hsg with rfl | ⟨c, rfl, hc⟩
  · have hxs : isSign x = false :=
      Bool.eq_false_iff.mpr fun h => not_isSign_of_isDigit hx ((isSign_iff x).mp h)
    cases h : ds' ++ u with
    | nil => simp [sign, h]
    | cons y r => simp [sign, h, hxs]
  · simp [sign, (isSign_iff c).mpr hc, (isDigit_iff x).mpr hx]

theorem fraction_le (cs : List Char) : fraction cs ≤ cs.length := by
  match cs with
  | d :: x :: r =>
    simp only [fraction]
    split
    · have := digitRun_le r
      simp only [List.length_cons]
      omega
    · exact Nat.zero_le _
  | [] => exact Nat.le_refl _
  | [_] => exact Nat.zero_le _

theorem fraction_mem (cs : List Char) : IsOptFraction (cs.take (fraction cs)) := by
  match cs with
  | d :: x :: r =>
    simp only [fraction]
    split
    · next h =>
      simp only [Bool.and_eq_true, isDot, decide_eq_true_eq] at h
      obtain ⟨rfl, hx⟩ := h
      refine .inr ⟨x :: r.takeWhile isDigit, ?_, digits_cons_run r hx⟩
      rw [Nat.add_comm, digitRun]
      simp only [List.take_succ_cons, take_length_takeWhile]
    · exact .inl rfl
  | [] => exact .inl rfl
  | [_] => exact .inl rfl

theorem fraction_dot {ds u : List Char} (hds : IsDigits ds) :
    fraction ('.' :: (ds ++ u)) = 1 + ds.length + digitRun u := by
  obtain ⟨x, ds', rfl⟩ := List.exists_cons_of_ne_nil hds.1
  have hx : isDigit x = true := (isDigit_iff x).mpr (hds.2 x (by simp))
  have hrun : digitRun (ds' ++ u) = ds'.length + digitRun u :=
    digitRun_append fun y hy => hds.2 y (List.mem_cons_of_mem x hy)
  simp only [List.cons_append, fraction, isDot, hx, decide_true, Bool.and_self, if_true, hrun,
    List.length_cons]
  omega

theorem fraction_cons_of_ne {c : Char} {u : List Char} (h : c ≠ '.') : fraction (c :: u) = 0 := by
  cases u with
  | nil => rfl
  | cons x r => simp [fraction, isDot, h]

theorem exponent_le (cs : List Char) : exponent cs ≤ cs.length := by
  match cs with
  | e :: s :: x :: r =>
    have hr := digitRun_le r
    have hxr := digitRun_le (x :: r)
    simp only [exponent]
    split
    · simp only [List.length_cons]; omega
    · split
      · simp only [List.length_cons] at hxr ⊢; omega
      · exact Nat.zero_le _
  | [e, x] =>
    simp only [exponent]
    split <;> simp
  | [] => exact Nat.le_refl _
  | [_] => exact Nat.zero_le _

theorem exponent_mem (cs : List Char) : IsOptExponent (cs.take (exponent cs)) := by
  match cs with
  | e :: s :: x :: r =>
    simp only [exponent]
    split
    · next h =>
      simp only [Bool.and_eq_true, isExponent, Bool.or_eq_true, decide_eq_true_eq] at h
      obtain ⟨⟨he, hs⟩, hx⟩ := h
      refine .inr ⟨e, [s], x :: r.takeWhile isDigit, ?_, he, .inr ⟨s, rfl, (isSign_iff s).mp hs⟩,
        digits_cons_run r hx⟩
      rw [Nat.add_comm, digitRun]
      simp only [List.take_succ_cons, take_length_takeWhile, List.singleton_append]
    · split
      · next h =>
        simp only [Bool.and_eq_true, isExponent, Bool.or_eq_true, decide_eq_true_eq] at h
        obtain ⟨he, hs⟩ := h
        refine .inr ⟨e, [], s :: (x :: r).takeWhile isDigit, ?_, he, .inl rfl,
          digits_cons_run (x :: r) hs⟩
        rw [Nat.add_comm, digitRun]
        simp only [List.take_succ_cons, take_length_takeWhile, List.nil_append]
      · exact .inl rfl
  | [e, x] =>
    simp only [exponent]
    split
    · next h =>
      simp only [Bool.and_eq_true, isExponent, Bool.or_eq_true, decide_eq_true_eq] at h
      exact .inr ⟨e, [], [x], rfl, h.1, .inl rfl, List.cons_ne_nil _ _,
        by simpa using (isDigit_iff x).mp h.2⟩
    · exact .inl rfl
  | [] => exact .inl rfl
  | [_] => exact .inl rfl

theorem exponent_mark {e : Char} {sg ds u : List Char} (he : e = 'e' ∨ e = 'E')
    (hsg : IsOptSign sg) (hds : IsDigits ds) :
    exponent (e :: (sg ++ ds ++ u)) = 1 + sg.length + ds.length + digitRun u := by
  obtain ⟨x, ds', rfl⟩ := List.exists_cons_of_ne_nil hds.1
  have hx : isDigit x = true := (isDigit_iff x).mpr (hds.2 x (by simp))
  have hrun : digitRun (ds' ++ u) = ds'.length + digitRun u :=
    digitRun_append fun y hy => hds.2 y (List.mem_cons_of_mem x hy)
  have hmark : isExponent e = true := by simpa [isExponent] using he
  rcases hsg with rfl | ⟨c, rfl, hc⟩
  · have hxs : isSign x = false :=
      Bool.eq_false_iff.mpr fun h =>
        not_isSign_of_isDigit (hds.2 x (by simp)) ((isSign_iff x).mp h)
    cases h : ds' ++ u with
    | nil =>
      have hnil : ds' = [] ∧ u = [] := List.append_eq_nil_iff.mp h
      simp [exponent, hmark, hx, hnil.1, hnil.2, digitRun]
    | cons y r =>
      rw [h] at hrun
      simp only [List.nil_append, List.cons_append, h]
      simp [exponent, hmark, hxs, hx, hrun]
      omega
  · have hcs : isSign c = true := (isSign_iff c).mpr hc
    simp [exponent, hmark, hcs, hx, hrun]
    omega

theorem exponent_ge {ex : List Char} (u : List Char) (hex : IsOptExponent ex) :
    ex.length ≤ exponent (ex ++ u) := by
  rcases hex with rfl | ⟨e, sg, ds, rfl, he, hsg, hds⟩
  · exact Nat.zero_le _
  · rw [List.cons_append, List.append_assoc, ← List.append_assoc sg, exponent_mark he hsg hds]
    simp only [List.length_cons, List.length_append]
    omega

theorem digitRun_of_mark {fr ex T : List Char} (hfr : IsOptFraction fr) (hex : IsOptExponent ex)
    (hne : fr ++ ex ≠ []) : digitRun (fr ++ ex ++ T) = 0 := by
  rcases hfr with rfl | ⟨ds, rfl, -⟩
  · rcases hex with rfl | ⟨e, sg, ds, rfl, he, -, -⟩
    · exact absurd rfl hne
    · exact digitRun_cons_of_not (not_isDigit_of_mark (.inr he))
  · exact digitRun_cons_of_not (not_isDigit_of_mark (.inl rfl))

/-- After the digits of a number, the fraction and exponent scans read at least the fraction
and the exponent there. -/
theorem fraction_exponent_ge {fr ex : List Char} (T : List Char) (hfr : IsOptFraction fr)
    (hex : IsOptExponent ex) :
    fr.length + ex.length ≤
      fraction (fr ++ ex ++ T) + exponent ((fr ++ ex ++ T).drop (fraction (fr ++ ex ++ T))) := by
  rcases hex with rfl | ⟨e, sg, ds, rfl, he, hsg, hds⟩
  · rcases hfr with rfl | ⟨ds, rfl, hds⟩
    · exact Nat.zero_le _
    · rw [List.append_nil, List.cons_append, fraction_dot hds]
      simp only [List.length_cons, List.length_nil]
      omega
  · have hmark : IsOptExponent (e :: (sg ++ ds)) := .inr ⟨e, sg, ds, rfl, he, hsg, hds⟩
    have hexp := exponent_ge T hmark
    rcases hfr with rfl | ⟨ds₂, rfl, hds₂⟩
    · have hf : fraction ([] ++ e :: (sg ++ ds) ++ T) = 0 := by
        rcases he with rfl | rfl <;> exact fraction_cons_of_ne (by decide)
      rw [hf, List.drop_zero, List.nil_append]
      simpa using hexp
    · have hrun : digitRun (e :: (sg ++ ds) ++ T) = 0 :=
        digitRun_cons_of_not (not_isDigit_of_mark (.inr he))
      have hf : fraction ('.' :: ds₂ ++ e :: (sg ++ ds) ++ T) = 1 + ds₂.length := by
        rw [List.append_assoc, List.cons_append, fraction_dot hds₂, hrun, Nat.add_zero]
      have hdrop : ('.' :: ds₂ ++ e :: (sg ++ ds) ++ T).drop (1 + ds₂.length) =
          e :: (sg ++ ds) ++ T := by
        rw [Nat.add_comm, List.append_assoc, List.cons_append, List.drop_succ_cons,
          List.drop_left]
      rw [hf, hdrop]
      simp only [List.length_cons] at hexp ⊢
      omega

theorem number_eq_some {cs : List Char} {n : Nat} {k : TokenKind} (h : number cs = some (n, k)) :
    digitRun (cs.drop (sign cs)) ≠ 0 ∧
      n = sign cs + digitRun (cs.drop (sign cs)) +
        fraction ((cs.drop (sign cs)).drop (digitRun (cs.drop (sign cs)))) +
        exponent (((cs.drop (sign cs)).drop (digitRun (cs.drop (sign cs)))).drop
          (fraction ((cs.drop (sign cs)).drop (digitRun (cs.drop (sign cs)))))) ∧
      k = if fraction ((cs.drop (sign cs)).drop (digitRun (cs.drop (sign cs)))) +
          exponent (((cs.drop (sign cs)).drop (digitRun (cs.drop (sign cs)))).drop
            (fraction ((cs.drop (sign cs)).drop (digitRun (cs.drop (sign cs)))))) = 0
        then .integer else .decimal := by
  simp only [number] at h
  split at h
  · cases h
  · next hd =>
    cases h
    exact ⟨hd, rfl, rfl⟩

theorem le_number_length {cs : List Char} {m : Nat} (hm : m ≤ cs.length)
    (hnum : IsNumber (cs.take m)) :
    m ≤ sign cs + digitRun (cs.drop (sign cs)) +
      fraction ((cs.drop (sign cs)).drop (digitRun (cs.drop (sign cs)))) +
      exponent (((cs.drop (sign cs)).drop (digitRun (cs.drop (sign cs)))).drop
        (fraction ((cs.drop (sign cs)).drop (digitRun (cs.drop (sign cs)))))) := by
  obtain ⟨sg, ds, fr, ex, hw, hsg, hds, hfr, hex⟩ := hnum
  have hlen : m = sg.length + ds.length + fr.length + ex.length := by
    have := congrArg List.length hw
    simp only [List.length_take, List.length_append] at this
    omega
  -- the text is the parts of the number ahead and what follows them; each scan then reads at
  -- least its part
  have hcs : cs = sg ++ ds ++ (fr ++ ex ++ cs.drop m) :=
    calc cs = cs.take m ++ cs.drop m := (List.take_append_drop m cs).symm
      _ = sg ++ ds ++ (fr ++ ex ++ cs.drop m) := by rw [hw]; simp only [List.append_assoc]
  generalize cs.drop m = T at hcs
  subst hcs
  have hA : (sg ++ ds ++ (fr ++ ex ++ T)).drop sg.length = ds ++ (fr ++ ex ++ T) := by
    rw [List.append_assoc, List.drop_left]
  rw [sign_append hsg hds, hA, digitRun_append hds.2]
  by_cases hne : fr ++ ex = []
  · obtain ⟨rfl, rfl⟩ := List.append_eq_nil_iff.mp hne
    simp only [List.length_nil] at hlen
    omega
  · rw [digitRun_of_mark hfr hex hne, Nat.add_zero, List.drop_left]
    have htail := fraction_exponent_ge T hfr hex
    omega

theorem take_eq_nil_of_le {l : List Char} {k : Nat} (hk : k ≤ l.length) : l.take k = [] ↔ k = 0 := by
  rw [← List.length_eq_zero_iff, List.length_take]
  omega

theorem number_le {cs : List Char} {n : Nat} {k : TokenKind} (h : number cs = some (n, k)) :
    n ≤ cs.length := by
  obtain ⟨-, rfl, -⟩ := number_eq_some h
  have h₁ := sign_le cs
  have h₂ := digitRun_le (cs.drop (sign cs))
  have h₃ := fraction_le ((cs.drop (sign cs)).drop (digitRun (cs.drop (sign cs))))
  have h₄ := exponent_le (((cs.drop (sign cs)).drop (digitRun (cs.drop (sign cs)))).drop
    (fraction ((cs.drop (sign cs)).drop (digitRun (cs.drop (sign cs))))))
  simp only [List.length_drop] at h₂ h₃ h₄
  omega

/-- What a number scan reads, in parts: a sign, digits, a fraction and an exponent; the number is
decimal when the last two are not both empty. -/
theorem number_parts {cs : List Char} {n : Nat} {k : TokenKind} (h : number cs = some (n, k)) :
    ∃ sg ds fr ex, cs.take n = sg ++ ds ++ fr ++ ex ∧ IsOptSign sg ∧ IsDigits ds ∧
      IsOptFraction fr ∧ IsOptExponent ex ∧ (k = .decimal ↔ fr ++ ex ≠ []) := by
  obtain ⟨hd, rfl, rfl⟩ := number_eq_some h
  refine ⟨_, _, _, _, take_add_add_add _ _ _ _ _, sign_mem cs, digits_mem hd, fraction_mem _,
    exponent_mem _, ?_⟩
  rw [Ne, List.append_eq_nil_iff, take_eq_nil_of_le (fraction_le _),
    take_eq_nil_of_le (exponent_le _)]
  split
  · next hfe => exact ⟨(fun h => nomatch h), fun h => (h ⟨by omega, by omega⟩).elim⟩
  · next hfe => exact ⟨fun _ h => hfe (by omega), fun _ => rfl⟩

theorem number_kind {cs : List Char} {n : Nat} {k : TokenKind} (h : number cs = some (n, k)) :
    k = .integer ∨ k = .decimal := by
  obtain ⟨-, -, rfl⟩ := number_eq_some h
  split
  · exact .inl rfl
  · exact .inr rfl

theorem number_longest {cs : List Char} {n : Nat} {k : TokenKind} (h : number cs = some (n, k)) :
    LongestPrefix IsNumber cs n := by
  obtain ⟨sg, ds, fr, ex, hsplit, hsg, hds, hfr, hex, -⟩ := number_parts h
  refine ⟨number_le h, ⟨sg, ds, fr, ex, hsplit, hsg, hds, hfr, hex⟩, ?_⟩
  intro m hm hnum
  obtain ⟨-, rfl, -⟩ := number_eq_some h
  exact le_number_length hm hnum

theorem not_mark_of_sign_digits {sg ds : List Char} {x : Char} (hsg : IsOptSign sg)
    (hds : IsDigits ds) (hx : x ∈ sg ++ ds) : ¬(x = '.' ∨ x = 'e' ∨ x = 'E') := by
  intro hmark
  rcases List.mem_append.mp hx with hx | hx
  · rcases hsg with rfl | ⟨c, rfl, hc⟩
    · cases hx
    · rw [List.mem_singleton] at hx
      subst hx
      rcases hc with rfl | rfl <;> rcases hmark with h | h | h <;> cases h
  · exact not_isDigit_of_mark hmark (hds.2 x hx)

/-- A number is decimal exactly when it has a point or an exponent mark. -/
theorem number_decimal_iff {cs : List Char} {n : Nat} {k : TokenKind}
    (h : number cs = some (n, k)) : k = .decimal ↔ ∃ x ∈ cs.take n, x = '.' ∨ x = 'e' ∨ x = 'E' := by
  obtain ⟨sg, ds, fr, ex, hsplit, hsg, hds, hfr, hex, hk⟩ := number_parts h
  rw [hk, hsplit]
  constructor
  · intro hne
    -- the fraction starts with its point, and the exponent with its mark
    rcases hfr with rfl | ⟨ds₂, rfl, -⟩
    · rcases hex with rfl | ⟨e, sg₂, ds₃, rfl, he, -, -⟩
      · exact absurd rfl hne
      · exact ⟨e, by simp, .inr he⟩
    · exact ⟨'.', by simp, .inl rfl⟩
  · rintro ⟨x, hx, hmark⟩ hnil
    obtain ⟨rfl, rfl⟩ := List.append_eq_nil_iff.mp hnil
    simp only [List.append_nil] at hx
    exact not_mark_of_sign_digits hsg hds hx hmark

/-! ### Character and string literals -/

theorem take_enclosed (q q' : Char) (body r : List Char) :
    (q :: (body ++ q' :: r)).take (body.length + 1 + 1) = q :: (body ++ [q']) := by
  rw [List.take_succ_cons, show body ++ q' :: r = (body ++ [q']) ++ r by simp,
    show body.length + 1 = (body ++ [q']).length by simp, List.take_left]

theorem isCharacter_prefixFree : PrefixFree IsCharacter := by
  rintro u v ⟨b, rfl, hb⟩ ⟨b', hb'eq, hb'⟩
  rcases hb with ⟨x, rfl, -, hx, -⟩ | ⟨y, rfl, -⟩ <;>
    rcases hb' with ⟨x', rfl, -, -, -⟩ | ⟨y', rfl, -⟩
  · simp at hb'eq
    exact hb'eq.2
  · simp at hb'eq
    exact absurd hb'eq.1 hx
  · simp at hb'eq
  · simp at hb'eq
    exact hb'eq.2

theorem closeCharacter_ok {n : Nat} {r : List Char} {k : TokenKind}
    (h : (closeCharacter n r).outcome = .ok k) :
    k = .character ∧ (closeCharacter n r).length = n + 1 ∧ ∃ r', r = '\'' :: r' := by
  match r with
  | c :: r' =>
    simp only [closeCharacter] at h ⊢
    split
    · next hc =>
      simp only [hc, if_true] at h
      cases h
      simp only [isSingleQuote, decide_eq_true_eq] at hc
      exact ⟨rfl, rfl, r', by rw [hc]⟩
    · next hc => simp [hc] at h
  | [] => simp [closeCharacter] at h

/-- A character literal that is read to its end is one body character or one escape, and the
closing quote. -/
theorem characterBody_ok {r : List Char} {k : TokenKind} (h : (characterBody r).outcome = .ok k) :
    k = .character ∧ ∃ body r', r = body ++ '\'' :: r' ∧
      (characterBody r).length = body.length + 1 ∧
      ((∃ x, body = [x] ∧ x ≠ '\'' ∧ x ≠ '\\' ∧ ¬IsLineBreak x) ∨ IsEscape body) := by
  match r with
  | c :: r =>
    by_cases hb : isBackslash c = true
    · have hc : c = '\\' := by simpa [isBackslash] using hb
      match r with
      | x :: r' =>
        by_cases hx : isEscapeLetter x = true
        · simp only [characterBody, hb, hx, if_true] at h ⊢
          obtain ⟨hk, hlen, r'', rfl⟩ := closeCharacter_ok h
          exact ⟨hk, [c, x], r'', rfl, hlen, .inr ⟨x, by rw [hc], (isEscapeLetter_iff x).mp hx⟩⟩
        · simp [characterBody, hb, hx] at h
      | [] => simp [characterBody, hb] at h
    · by_cases hp : isCharacterBody c = true
      · have hplain : characterBody (c :: r) = closeCharacter 1 r := by
          cases r <;> simp [characterBody, hb, hp]
        rw [hplain] at h ⊢
        obtain ⟨hk, hlen, r', rfl⟩ := closeCharacter_ok h
        exact ⟨hk, [c], r', rfl, hlen, .inl ⟨c, rfl, (isCharacterBody_iff c).mp hp⟩⟩
      · have hbad : characterBody (c :: r) = ⟨0, .error .invalidCharacterLiteral⟩ := by
          cases r <;> simp [characterBody, hb, hp]
        simp [hbad] at h
  | [] => simp [characterBody] at h

theorem character_longest {cs : List Char} {e : Extent TokenKind} {k : TokenKind}
    (h : character cs = some e) (hk : e.outcome = .ok k) :
    k = .character ∧ LongestPrefix IsCharacter cs e.length := by
  match cs, h with
  | c :: r, h =>
    simp only [character] at h
    split at h
    · next hc =>
      cases h
      simp only [isSingleQuote, decide_eq_true_eq] at hc
      subst hc
      obtain ⟨hkind, body, r', rfl, hlen, hbody⟩ := characterBody_ok hk
      refine ⟨hkind, LongestPrefix.of_prefixFree isCharacter_prefixFree ?_ ?_⟩
      · simp [hlen]
      · refine ⟨body, ?_, hbody⟩
        simp only [Extent.after_length, hlen]
        exact take_enclosed _ _ _ _
    · cases h

/-- A string body followed by a double quote is not the start of a longer one: the first double
quote outside an escape ends the body. -/
theorem StringBody.append_quote {b b' v : List Char} (hb : StringBody b) (hb' : StringBody b')
    (h : b ++ '"' :: v = b' ++ ['"']) : v = [] := by
  induction hb generalizing b' with
  | nil =>
    cases hb' with
    | nil => simpa using h
    | plain hx _ _ _ => simp at h; exact absurd h.1.symm hx
    | escape _ _ => simp at h
  | plain hx hx' _ _ ih =>
    cases hb' with
    | nil => simp at h
    | plain _ _ _ hr' => simp at h; exact ih hr' h.2
    | escape _ _ => simp at h; exact absurd h.1 hx'
  | escape _ _ ih =>
    cases hb' with
    | nil => simp at h
    | plain _ hx' _ _ => simp at h; exact absurd h.1.symm hx'
    | escape _ hr' => simp at h; exact ih hr' h.2

theorem isString_prefixFree : PrefixFree IsString := by
  rintro u v ⟨b, rfl, hb⟩ ⟨b', hb'eq, hb'⟩
  simp only [List.cons_append, List.cons.injEq, true_and, List.append_assoc] at hb'eq
  exact StringBody.append_quote hb hb' hb'eq

theorem stringBody_cons (c : Char) (r : List Char) :
    stringBody (c :: r) =
      if isDoubleQuote c then ⟨1, .ok .string⟩
      else if isBackslash c then
        match r with
        | x :: r' => if isEscapeLetter x then (stringBody r').after 2 else ⟨1, .error .invalidEscape⟩
        | [] => ⟨1, .error .invalidEscape⟩
      else if isStringBody c then (stringBody r).after 1
      else if isLineBreak c then ⟨0, .error .newlineInStringLiteral⟩
      else ⟨0, .error .invalidStringCharacter⟩ :=
  stringBody.eq_def (c :: r)

theorem stringBody_ok {r : List Char} {k : TokenKind} (h : (stringBody r).outcome = .ok k) :
    k = .string ∧ ∃ body r', r = body ++ '"' :: r' ∧ StringBody body ∧
      (stringBody r).length = body.length + 1 := by
  induction r using stringBody.induct with
  | case1 c r hq =>
    simp only [stringBody_cons, hq, if_true] at h ⊢
    cases h
    simp only [isDoubleQuote, decide_eq_true_eq] at hq
    exact ⟨rfl, [], r, by simp [hq], .nil, rfl⟩
  | case2 c hq hb x r hx ih =>
    have heq : stringBody (c :: x :: r) = (stringBody r).after 2 := by
      simp [stringBody_cons, hq, hb, hx]
    rw [heq] at h ⊢
    obtain ⟨hk, body, r', rfl, hbody, hlen⟩ := ih h
    have hc : c = '\\' := by simpa [isBackslash] using hb
    subst hc
    refine ⟨hk, '\\' :: x :: body, r', by simp, .escape ((isEscapeLetter_iff x).mp hx) hbody, ?_⟩
    simp only [after_length, hlen, List.length_cons]
  | case3 c hq hb x r hx => simp [stringBody_cons, hq, hb, hx] at h
  | case4 c hq hb => simp [stringBody_cons, hq, hb] at h
  | case5 c r hq hb hs ih =>
    have heq : stringBody (c :: r) = (stringBody r).after 1 := by
      simp [stringBody_cons, hq, hb, hs]
    rw [heq] at h ⊢
    obtain ⟨hk, body, r', rfl, hbody, hlen⟩ := ih h
    obtain ⟨hq', hb', hl'⟩ := (isStringBody_iff c).mp hs
    refine ⟨hk, c :: body, r', by simp, .plain hq' hb' hl' hbody, ?_⟩
    simp only [after_length, hlen, List.length_cons]
  | case6 c r hq hb hs hl => simp [stringBody_cons, hq, hb, hs, hl] at h
  | case7 c r hq hb hs hl => simp [stringBody_cons, hq, hb, hs, hl] at h
  | case8 => simp [stringBody] at h

theorem string_longest {cs : List Char} {k : TokenKind} (hk : (string cs).outcome = .ok k) :
    k = .string ∧ LongestPrefix IsString cs (string cs).length := by
  match cs with
  | c :: r =>
    by_cases hc : isDoubleQuote c = true
    · have heq : string (c :: r) = (stringBody r).after 1 := by simp [string, hc]
      rw [heq] at hk ⊢
      obtain ⟨hkind, body, r', rfl, hbody, hlen⟩ := stringBody_ok hk
      have hq : c = '"' := by simpa [isDoubleQuote] using hc
      subst hq
      refine ⟨hkind, LongestPrefix.of_prefixFree isString_prefixFree ?_ ⟨body, ?_, hbody⟩⟩
      · simp [hlen]
      · simp only [after_length, hlen]
        exact take_enclosed _ _ _ _
    · simp [string, hc] at hk
  | [] => simp [string] at hk

/-! ### Operators -/

theorem isOperator_length {w : List Char} (h : IsOperator w) :
    w.length ≤ 2 ∧ (2 ≤ w.length → ∃ c, w = [c, '='] ∧ IsComparison c) := by
  rcases h with ⟨c, hc, rfl | rfl⟩ | ⟨c, -, rfl⟩
  · simp
  · exact ⟨by simp, fun _ => ⟨c, rfl, hc⟩⟩
  · simp

theorem operator_le_one {cs : List Char} {m : Nat} (hm : m ≤ cs.length)
    (hop : IsOperator (cs.take m)) (hno : ∀ c x r, cs = c :: x :: r → IsComparison c → x ≠ '=') :
    m ≤ 1 := by
  obtain ⟨-, htwo⟩ := isOperator_length hop
  have hlen : (cs.take m).length = m := List.length_take_of_le hm
  apply Nat.le_of_not_lt
  intro hlt
  obtain ⟨c, heq, hc⟩ := htwo (by omega)
  obtain ⟨j, rfl⟩ : ∃ j, m = j + 2 := ⟨m - 2, by omega⟩
  match cs, hm with
  | c' :: x :: r, _ =>
    simp only [List.take_succ_cons, List.cons.injEq] at heq
    obtain ⟨hc', hx, -⟩ := heq
    subst hc' hx
    exact hno c' '=' r rfl hc rfl
  | [], hm => simp at hm
  | [_], hm => simp at hm

/-- An operator scan that completes reads the longest operator ahead: a comparison takes the
equals sign after it, and every other operator is one character. -/
theorem operator_longest {cs : List Char} {e : Extent TokenKind} {k : TokenKind}
    (h : operator cs = some e) (hk : e.outcome = .ok k) :
    k = .operator ∧ LongestPrefix IsOperator cs e.length := by
  match cs, h with
  | c :: r, h =>
    simp only [operator] at h
    split at h
    · next hc =>
      cases h
      cases hk
      have hcmp := (isComparison_iff c).mp hc
      refine ⟨rfl, ?_⟩
      match r with
      | x :: r =>
        by_cases hx : isEquals x = true
        · have hx' : x = '=' := by simpa [isEquals] using hx
          subst hx'
          simp only [hx, if_true]
          refine ⟨by simp, .inl ⟨c, hcmp, .inr rfl⟩, fun m hm hop => ?_⟩
          have hle := (isOperator_length hop).1
          rw [List.length_take_of_le hm] at hle
          exact hle
        · simp only [hx, Bool.false_eq_true, if_false]
          refine ⟨by simp, .inl ⟨c, hcmp, .inl rfl⟩, fun m hm hop => operator_le_one hm hop ?_⟩
          rintro c' x' r' heq -
          simp only [List.cons.injEq] at heq
          obtain ⟨-, rfl, -⟩ := heq
          intro hx''
          exact hx (by simp [isEquals, hx''])
      | [] =>
        refine ⟨by simp, .inl ⟨c, hcmp, .inl rfl⟩, fun m hm _ => by simpa using hm⟩
    · split at h
      · next hc ho =>
        cases h
        cases hk
        refine ⟨rfl, by simp, .inr ⟨c, (isOperator_iff c).mp ho, rfl⟩, ?_⟩
        refine fun m hm hop => operator_le_one hm hop ?_
        rintro c' x' r' heq hcmp
        simp only [List.cons.injEq] at heq
        rw [← heq.1] at hcmp
        exact absurd ((isComparison_iff c).mpr hcmp) hc
      · cases h
        cases hk

end Extent

/-- The language of the class of a token kind: integers and decimals are both numbers. -/
def TokenKind.Language : TokenKind → List Char → Prop
  | .identifier => IsIdentifier
  | .integer | .decimal => IsNumber
  | .character => IsCharacter
  | .string => IsString
  | .operator => IsOperator

end Lexis
