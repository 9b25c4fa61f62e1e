import Lexis.App.Run
import Lexis.Sandbox
import Lexis.Proofs.Transcript

/-!
The session that the program runs on a system, against the session over a list of lines. The
program's loop prints the prompt, reads a line of standard input, and takes one step of
`Session.Stage.take`, for at most a given number of reads. On the sandbox system standard input is
a list of bytes, handed out a line at a time (`Sandbox.stdinLines`); a line that is not UTF-8 ends
the run with an error.

`App.session_eq_run`: with one read per line and two to spare, the loop writes what
`Session.run` writes over the lines of standard input, and ends as it ends.
`App.session_transcript`: when standard input holds the UTF-8 bytes of a text, the loop writes the
transcript of the groups of the lines of that text and leaves standard input empty.
-/

namespace Lexis

/-! ### The bytes of a text -/

theorem toList_loop_eq (bs : ByteArray) (i : Nat) (r : List UInt8) :
    ByteArray.toList.loop bs i r = r.reverse ++ bs.data.toList.drop i := by
  fun_induction ByteArray.toList.loop bs i r with
  | case1 i r hi ih =>
    rw [ih]
    have hlt : i < bs.data.size := hi
    have hlen : i < bs.data.toList.length := by rw [Array.length_toList]; exact hlt
    have hget : bs.get! i = bs.data.toList[i] := by
      show bs.data[i]! = _
      rw [getElem!_pos bs.data i hlt, Array.getElem_toList]
    rw [List.reverse_cons, List.append_assoc, hget, List.singleton_append,
      ← List.drop_eq_getElem_cons]
  | case2 i r hi =>
    have hend : bs.data.toList.drop i = [] := by
      rw [List.drop_eq_nil_iff, Array.length_toList]
      exact Nat.le_of_not_lt hi
    rw [hend, List.append_nil]

theorem toList_toUTF8 (s : String) :
    s.toUTF8.toList = s.toList.flatMap String.utf8EncodeChar := by
  have hloop := toList_loop_eq s.toUTF8 0 []
  rw [List.reverse_nil, List.nil_append, List.drop_zero] at hloop
  rw [ByteArray.toList, hloop]
  show s.toByteArray.data.toList = _
  rw [← String.utf8Encode_toList, List.utf8Encode, List.data_toByteArray, List.toList_toArray]

theorem utf8?_encode (cs : List Char) :
    utf8? (cs.flatMap String.utf8EncodeChar) = some (String.ofList cs) := by
  have hbytes : (⟨(cs.flatMap String.utf8EncodeChar).toArray⟩ : ByteArray) = cs.utf8Encode := by
    apply ByteArray.ext
    rw [List.utf8Encode, List.data_toByteArray]
  rw [utf8?, hbytes, String.fromUTF8?, dif_pos ByteArray.isValidUTF8_utf8Encode,
    Option.some.injEq, ← String.toByteArray_inj, String.toByteArray_ofList]
  rfl

theorem utf8EncodeChar_lineFeed : String.utf8EncodeChar '\n' = [10] := by decide

/-- The byte of a line feed stands in the encoding of no other character: a one-byte encoding is
the code point itself, and every byte of a longer one is at least 128. -/
theorem lineFeed_not_mem_utf8EncodeChar {c : Char} (hc : c ≠ '\n') :
    (10 : UInt8) ∉ String.utf8EncodeChar c := by
  have hv : c.val.toNat ≠ 10 := fun h => hc (Char.ext (UInt32.toNat_inj.mp h))
  have hbyte : ∀ n, (10 : UInt8) = UInt8.ofNat n ↔ n % 256 = 10 := fun n => by
    rw [← UInt8.toNat_inj, UInt8.toNat_ofNat]
    simp [eq_comm]
  unfold String.utf8EncodeChar
  intro hmem
  dsimp only at hmem
  -- one branch per length of the encoding; in each, every byte is a number mod 256
  repeat' split at hmem
  all_goals
    simp only [List.mem_cons, List.not_mem_nil, or_false, hbyte] at hmem
    omega

theorem lineFeed_not_mem_encode {p : List Char} (hp : '\n' ∉ p) :
    (10 : UInt8) ∉ p.flatMap String.utf8EncodeChar := by
  rw [List.mem_flatMap]
  rintro ⟨c, hc, hmem⟩
  exact lineFeed_not_mem_utf8EncodeChar (fun h => hp (h ▸ hc)) hmem

namespace Sandbox

/-! ### Standard input, a line at a time -/

theorem length_splitLine_lt (b : UInt8) (bs : List UInt8) :
    (splitLine (b :: bs)).2.length < (b :: bs).length := by
  unfold splitLine
  split
  · rw [List.length_drop]
    simp
  · simp

/-- The lines of standard input as the sandbox hands them out, one read at a time: each up to and
including its line feed, the last one perhaps without. -/
def stdinLines : List UInt8 → List (List UInt8)
  | [] => []
  | b :: bs => (splitLine (b :: bs)).1 :: stdinLines (splitLine (b :: bs)).2
termination_by bs => bs.length
decreasing_by exact length_splitLine_lt b bs

theorem idxOf?_lineFeed {p : List UInt8} (hp : (10 : UInt8) ∉ p) (r : List UInt8) :
    (p ++ 10 :: r).idxOf? 10 = some p.length := by
  induction p with
  | nil => simp [List.idxOf?_cons]
  | cons b p ih =>
    have hb : b ≠ 10 := fun h => hp (h ▸ List.mem_cons_self)
    rw [List.cons_append, List.idxOf?_cons, if_neg (by simpa using hb),
      ih (fun h => hp (List.mem_cons_of_mem _ h))]
    rfl

theorem stdinLines_lineFeed {p : List UInt8} (hp : (10 : UInt8) ∉ p) (r : List UInt8) :
    stdinLines (p ++ 10 :: r) = (p ++ [10]) :: stdinLines r := by
  obtain ⟨b, bs, hbs⟩ := List.exists_cons_of_ne_nil (List.append_ne_nil_of_right_ne_nil p
    (List.cons_ne_nil (10 : UInt8) r))
  have hsplit : splitLine (p ++ 10 :: r) = (p ++ [10], r) := by
    simp [splitLine, idxOf?_lineFeed hp, List.take_append]
  rw [hbs, stdinLines, ← hbs, hsplit]

theorem stdinLines_of_not_mem {p : List UInt8} (hp : (10 : UInt8) ∉ p) (hne : p ≠ []) :
    stdinLines p = [p] := by
  obtain ⟨b, bs, rfl⟩ := List.exists_cons_of_ne_nil hne
  have hsplit : splitLine (b :: bs) = (b :: bs, []) := by
    simp [splitLine, List.idxOf?_eq_none_iff.mpr hp]
  rw [stdinLines, hsplit, stdinLines]

end Sandbox

namespace Session

theorem readPieces_lineFeed {p : List Char} (hp : '\n' ∉ p) (r : List Char) :
    readPieces (p ++ '\n' :: r) = (p, true) :: readPieces r := by
  induction p with
  | nil => simp [readPieces]
  | cons c p ih =>
    have hc : c ≠ '\n' := fun h => hp (h ▸ List.mem_cons_self)
    rw [List.cons_append, readPieces, if_neg hc, ih (fun h => hp (List.mem_cons_of_mem _ h))]

theorem readPieces_of_not_mem {p : List Char} (hp : '\n' ∉ p) (hne : p ≠ []) :
    readPieces p = [(p, false)] := by
  induction p with
  | nil => exact absurd rfl hne
  | cons c p ih =>
    have hc : c ≠ '\n' := fun h => hp (h ▸ List.mem_cons_self)
    rw [readPieces, if_neg hc]
    by_cases hnil : p = []
    · subst hnil
      rfl
    · rw [ih (fun h => hp (List.mem_cons_of_mem _ h)) hnil]

theorem length_readPieces_le (cs : List Char) : (readPieces cs).length ≤ cs.count '\n' + 1 := by
  induction cs with
  | nil => simp [readPieces]
  | cons c cs ih =>
    by_cases hc : c = '\n'
    · subst hc
      simp [readPieces, ih]
    · rw [readPieces, if_neg hc, List.count_cons_of_ne hc]
      split <;> simp_all

/-- Read as bytes, a text gives the lines it gives read as characters. -/
theorem stdinLines_encode (cs : List Char) :
    (Sandbox.stdinLines (cs.flatMap String.utf8EncodeChar)).map utf8? =
      (readPieces cs).map fun x => some (pieceText x) := by
  by_cases hlf : '\n' ∈ cs
  · -- the first line runs up to the first line feed, whose byte is the first byte 10
    obtain ⟨p, r, rfl, hp⟩ := List.eq_append_cons_of_mem hlf
    have hbytes : (p ++ '\n' :: r).flatMap String.utf8EncodeChar =
        p.flatMap String.utf8EncodeChar ++ 10 :: r.flatMap String.utf8EncodeChar := by
      simp [utf8EncodeChar_lineFeed]
    have hline : p.flatMap String.utf8EncodeChar ++ [10] =
        (p ++ ['\n']).flatMap String.utf8EncodeChar := by
      simp [utf8EncodeChar_lineFeed]
    have hrest := stdinLines_encode r
    rw [hbytes, Sandbox.stdinLines_lineFeed (lineFeed_not_mem_encode hp), readPieces_lineFeed hp,
      List.map_cons, List.map_cons, hrest, hline, utf8?_encode]
    rfl
  · by_cases hnil : cs = []
    · subst hnil
      rw [List.flatMap_nil, Sandbox.stdinLines, readPieces, List.map_nil, List.map_nil]
    · have hne : cs.flatMap String.utf8EncodeChar ≠ [] := by
        obtain ⟨c, cs', rfl⟩ := List.exists_cons_of_ne_nil hnil
        rw [List.flatMap_cons]
        exact List.append_ne_nil_of_left_ne_nil (String.utf8EncodeChar_ne_nil) _
      rw [Sandbox.stdinLines_of_not_mem (lineFeed_not_mem_encode hlf) hne,
        readPieces_of_not_mem hlf hnil, List.map_singleton, List.map_singleton, utf8?_encode]
      rfl
termination_by cs.length
decreasing_by
  subst_vars
  simp only [List.length_append, List.length_cons]
  omega

/-! ### What reading a line and closing do -/

variable (prompt : String) (showSpans : Bool)

theorem evaluate_ok (source : String) : ∃ out, evaluate showSpans source = .ok out := by
  obtain ⟨r, hr⟩ := exists_lex_ok source
  exact ⟨_, evaluate_of_lex showSpans hr⟩

/-- Reading a line never faults, at either stage. -/
theorem Stage.take_ok (st : Stage) (raw : String) :
    ∃ out st', st.take showSpans raw = .ok (out, st') := by
  cases st with
  | prompt =>
    by_cases hl : (chomp raw).isEmpty = true
    · exact ⟨blockNotice, .block [], by simp only [Stage.take, hl, if_true]⟩
    · obtain ⟨out, hout⟩ := evaluate_ok showSpans (chomp raw)
      exact ⟨out, .prompt, by simp [Stage.take, hl, hout, Except.map]⟩
  | block lines =>
    by_cases hl : (chomp raw).isEmpty = true
    · obtain ⟨out, hout⟩ := evaluate_ok showSpans (blockText lines)
      exact ⟨out, .prompt, by simp [Stage.take, hl, hout, Except.map]⟩
    · exact ⟨"", .block (lines ++ [chomp raw]), by simp [Stage.take, hl]⟩

theorem Stage.close_ok (st : Stage) : ∃ o, st.close showSpans = .ok o := by
  cases st with
  | prompt => exact ⟨none, rfl⟩
  | block lines =>
    obtain ⟨out, hout⟩ := evaluate_ok showSpans (blockText lines)
    exact ⟨some out, by simp [Stage.close, hout, Except.map]⟩

/-- Only an open block writes something at the end of the input, and no prompt stands before it. -/
theorem Stage.preface_of_close {st : Stage} {out : String}
    (hc : st.close showSpans = .ok (some out)) : st.preface prompt = "" := by
  cases st with
  | prompt => cases hc
  | block lines => rfl

end Session

namespace App

open Sandbox Session

variable (prompt : String) (showSpans : Bool)

/-! ### The session loop on the sandbox, one read at a time -/

theorem session_end_none {w : World} (hw : w.input = []) {st : Stage}
    (hc : st.close showSpans = .ok none) (n : Nat) :
    (session host prompt showSpans (n + 1) st).run w =
      (.ok (), { w with output := w.output ++ st.preface prompt }) := by
  simp only [session, host, bind_pure_comp, hc, StateT.run_bind, StateT.run_modify, hw,
    StateT.run_modifyGet, pure_bind, StateT.run_pure]
  rfl

theorem session_end_some {w : World} (hw : w.input = []) {st : Stage} {out : String}
    (hc : st.close showSpans = .ok (some out)) (n : Nat) :
    (session host prompt showSpans (n + 1) st).run w =
      (session host prompt showSpans n .prompt).run
        { w with output := w.output ++ st.preface prompt ++ out } := by
  simp only [session, host, bind_pure_comp, hc, StateT.run_bind, StateT.run_modify, hw,
    StateT.run_modifyGet, pure_bind]

theorem session_unreadable {w : World} {b : UInt8} {bs : List UInt8} (hw : w.input = b :: bs)
    (hl : utf8? (splitLine (b :: bs)).1 = none) (st : Stage) (n : Nat) :
    (session host prompt showSpans (n + 1) st).run w =
      (.error (.io .invalidUtf8),
        { w with input := (splitLine (b :: bs)).2, output := w.output ++ st.preface prompt }) := by
  simp only [session, host, bind_pure_comp, StateT.run_bind, StateT.run_modify, hw,
    StateT.run_modifyGet, pure_bind, hl, StateT.run_pure]
  rfl

theorem session_line {w : World} {b : UInt8} {bs : List UInt8} (hw : w.input = b :: bs)
    {raw : String} (hl : utf8? (splitLine (b :: bs)).1 = some raw) {st st' : Stage}
    {out : String} (ht : st.take showSpans raw = .ok (out, st')) (n : Nat) :
    (session host prompt showSpans (n + 1) st).run w =
      (session host prompt showSpans n st').run
        { w with input := (splitLine (b :: bs)).2,
                 output := w.output ++ st.preface prompt ++ out } := by
  simp only [session, host, bind_pure_comp, StateT.run_bind, StateT.run_modify, hw,
    StateT.run_modifyGet, pure_bind, hl, ht]

/-! ### The whole session loop -/

/-- The session loop on the sandbox, with a read for each line of standard input and two to
spare, writes what the session over those lines writes and ends as it ends: normally, with
standard input used up, or with an error at the first line that is not UTF-8. -/
theorem session_eq_run (w : World) (st : Stage) (n : Nat)
    (hn : (stdinLines w.input).length + 2 ≤ n) :
    ∃ t rest, Session.run prompt showSpans st ((stdinLines w.input).map utf8?) = .ok t ∧
      (session host prompt showSpans n st).run w =
        (if t.unreadable then .error (.io .invalidUtf8) else .ok (),
          { w with input := rest, output := w.output ++ t.output }) ∧
      (t.unreadable = false → rest = []) := by
  -- on the lines of standard input: each read takes one line and one round
  generalize hbs : w.input = bs at hn
  induction bs using stdinLines.induct generalizing w st n with
  | case1 =>
    obtain ⟨tree, env, input, output, errors⟩ := w
    simp only at hbs
    subst hbs
    rw [stdinLines] at hn ⊢
    obtain ⟨m, rfl⟩ : ∃ m, n = m + 1 := ⟨n - 1, by simp at hn; omega⟩
    obtain ⟨o, hc⟩ := Stage.close_ok showSpans st
    cases o with
    | none =>
      refine ⟨⟨st.preface prompt, false⟩, [], by simp [Session.run, hc], ?_, fun _ => rfl⟩
      rw [session_end_none prompt showSpans rfl hc]
      rfl
    | some out =>
      -- the block is lexed, and the loop reads once more from the prompt
      obtain ⟨k, rfl⟩ : ∃ k, m = k + 1 := ⟨m - 1, by simp at hn; omega⟩
      refine ⟨⟨out ++ prompt, false⟩, [], by simp [Session.run, hc], ?_, fun _ => rfl⟩
      rw [session_end_some prompt showSpans rfl hc, session_end_none prompt showSpans rfl rfl,
        Stage.preface_of_close prompt showSpans hc]
      simp [Stage.preface, String.append_assoc]
  | case2 b bs ih =>
    rw [stdinLines] at hn ⊢
    obtain ⟨m, rfl⟩ : ∃ m, n = m + 1 := ⟨n - 1, by simp at hn; omega⟩
    cases hl : utf8? (splitLine (b :: bs)).1 with
    | none =>
      refine ⟨⟨st.preface prompt, true⟩, (splitLine (b :: bs)).2, by simp [Session.run, hl],
        ?_, fun h => Bool.noConfusion h⟩
      rw [session_unreadable prompt showSpans hbs hl]
      rfl
    | some raw =>
      obtain ⟨out, st', ht⟩ := Stage.take_ok showSpans st raw
      obtain ⟨t, rest, hrun, happ, hrest⟩ := ih
        { w with input := (splitLine (b :: bs)).2, output := w.output ++ st.preface prompt ++ out }
        st' m rfl (by simp at hn; omega)
      refine ⟨t.after (st.preface prompt ++ out), rest, ?_, ?_, hrest⟩
      · simp only [List.map_cons, hl, Session.run, ht, hrun, bind, Except.bind]
        rfl
      · rw [session_line prompt showSpans hbs hl ht, happ]
        simp [Transcript.after, String.append_assoc]

/-- The session loop on the sandbox, when standard input holds the UTF-8 bytes of a text and the
loop may read three times more than the text has line feeds, writes the transcript of the groups
of the lines of the text, ends normally and leaves standard input empty. -/
theorem session_transcript (text : String) (w : World) (hw : w.input = text.toUTF8.toList)
    (n : Nat) (hn : text.toList.count '\n' + 3 ≤ n) :
    ∃ out, transcript prompt showSpans (groups (inputLines text)) = .ok out ∧
      (session host prompt showSpans n .prompt).run w =
        (.ok (), { w with input := [], output := w.output ++ out }) := by
  have hlines : (stdinLines w.input).map utf8? = (readLines text).map some := by
    rw [hw, toList_toUTF8, stdinLines_encode, readLines_eq, List.map_map]
    rfl
  have hlen : (stdinLines w.input).length + 2 ≤ n := by
    have hcount := congrArg List.length hlines
    rw [List.length_map, List.length_map, readLines_eq, List.length_map] at hcount
    have := length_readPieces_le text.toList
    omega
  obtain ⟨t, rest, hrun, happ, hrest⟩ := session_eq_run prompt showSpans w .prompt n hlen
  obtain ⟨out, hout⟩ := transcript_ok prompt showSpans (groups (inputLines text))
  -- the session over the lines of the text writes the transcript and reads every line
  have hwrites := (run_lines prompt showSpans (readLines text)).1 out (by rwa [readLines_chomp])
  rw [hlines, hwrites, Except.ok.injEq] at hrun
  subst hrun
  refine ⟨out, hout, ?_⟩
  rw [happ, hrest rfl]
  rfl

end App

end Lexis
