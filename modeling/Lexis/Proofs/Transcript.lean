import Mathlib
import Lexis.Session
import Lexis.Proofs.Faultless

/-!
What an interactive session writes over a whole input text. The text is read in pieces, each up
to and including a line feed, and each piece gives a line (`Session.inputLines`). Read from left to
right the lines fall into groups (`Session.groups`): a line that is not empty stands alone, and an
empty line opens a block of the lines after it, up to the next empty line or the end of the input.

For each group the session writes the prompt, the notice of a block, and then the listing of the
group's source or its lexical error (`Session.report`); when the input is used up it writes the
prompt once more (`Session.transcript`). Main statement: `run_transcript`.
-/

namespace Lexis.Session

/-- The pieces a text is read in, each with whether a line feed ends it: a piece runs up to the
next line feed, and the last one may have none. -/
def readPieces : List Char → List (List Char × Bool)
  | [] => []
  | c :: cs =>
    if c = '\n' then ([], true) :: readPieces cs
    else
      match readPieces cs with
      | [] => [([c], false)]
      | (p, ended) :: ps => (c :: p, ended) :: ps

/-- The line of a piece: a line feed is dropped, and then one carriage return before it; a last
piece with no line feed is kept whole. -/
def pieceLine : List Char × Bool → String
  | (p, true) => String.ofList (if p.getLast? = some '\r' then p.dropLast else p)
  | (p, false) => String.ofList p

/-- The lines of an input text. -/
def inputLines (text : String) : List String := (readPieces text.toList).map pieceLine

/-- A group of input lines: one line, or a block of lines. -/
inductive Group where
  | single (line : String)
  | block (lines : List String)
  deriving DecidableEq, Repr

/-- The groups of a list of lines, from left to right: a line that is not empty is a group of its
own, and an empty line opens a block that takes the lines after it up to the next empty line,
which it consumes, or up to the end. -/
def groups : List String → List Group
  | [] => []
  | l :: ls =>
    if l.isEmpty then
      .block (ls.takeWhile (!·.isEmpty)) :: groups ((ls.dropWhile (!·.isEmpty)).drop 1)
    else .single l :: groups ls
termination_by ls => ls.length
decreasing_by
  all_goals simp only [List.length_cons, List.length_drop]
  · have : (ls.dropWhile (!·.isEmpty)).length ≤ ls.length := List.length_dropWhile_le _ ls
    omega
  · omega

namespace Group

/-- The source a group is lexed as: its line, or the lines of its block, each with a line feed. -/
def source : Group → String
  | single line => line
  | block lines => String.join (lines.map (· ++ "\n"))

/-- What is written after the prompt before the group is read: a notice for a block. -/
def notice : Group → String
  | single _ => ""
  | block _ => "Multiline input - enter empty line to submit:\n"

end Group

/-- The listing of a token list: its size, a colon when it is not empty, and a line per token with
its type, its literal and, when spans are shown, its span. -/
def tokensReport (showSpans : Bool) (ts : List Token) : String :=
  "List<Token>[size=" ++ toString ts.length ++ "]" ++ (if 0 < ts.length then ":" else "") ++
    "\n" ++ String.join (ts.map fun t =>
      " - Token[type=" ++ t.kind.name ++ ", literal=" ++ t.text ++ "]" ++
        (if showSpans then " @ " ++ toString t.span.start ++ ".." ++ toString t.span.stop
        else "") ++ "\n")

/-- The line of a lexical error: its message and its offset. -/
def errorReport (e : LexError) : String :=
  "LexError: " ++ e.kind.message ++ " at offset " ++ toString e.offset ++ "\n"

/-- What is written for a lexed source: the listing of its tokens, or its lexical error. -/
def report (showSpans : Bool) : Except LexError (List Token) → String
  | .ok ts => tokensReport showSpans ts
  | .error e => errorReport e

/-- What a session writes over groups of lines: for each group the prompt, its notice and the
report of its source, and the prompt at the end. -/
def transcript (prompt : String) (showSpans : Bool) : List Group → Except Fault String
  | [] => .ok prompt
  | g :: gs => do
    let r ← lex g.source
    let rest ← transcript prompt showSpans gs
    return prompt ++ g.notice ++ report showSpans r ++ rest

/-! ### The listing of a source -/

theorem token_line_eq (showSpans : Bool) (t : Token) :
    " - " ++ t.line showSpans =
      " - Token[type=" ++ t.kind.name ++ ", literal=" ++ t.text ++ "]" ++
        (if showSpans then " @ " ++ toString t.span.start ++ ".." ++ toString t.span.stop else "") ++
        "\n" := by
  simp only [Token.line, Token.display, ← String.append_assoc]
  rfl

theorem colon_eq (ts : List Token) :
    (if ts.isEmpty then "" else ":") = if 0 < ts.length then ":" else "" := by
  cases ts <;> simp

/-- The session writes for a lexed source what `report` says. -/
theorem evaluate_eq (showSpans : Bool) (source : String) :
    evaluate showSpans source = (lex source).map (report showSpans) := by
  unfold evaluate
  generalize lex source = x
  cases x with
  | error f => rfl
  | ok r =>
    cases r with
    | ok ts =>
      unfold Except.map report tokensReport
      dsimp only
      rw [colon_eq]
      simp only [token_line_eq]
    | error e =>
      unfold Except.map report errorReport
      dsimp only
      simp only [LexError.display, LexError.message, ← String.append_assoc]

/-! ### Reading the input -/

/-- The pieces of the parts of a text between its line feeds: every part but the last ends with a
line feed, and an empty last part is no piece. -/
def closePieces : List (List Char) → List (List Char × Bool)
  | [] => []
  | [p] => if p = [] then [] else [(p, false)]
  | p :: q :: ps => (p, true) :: closePieces (q :: ps)

/-- The text of a piece as it is read, with its line feed. -/
def pieceText : List Char × Bool → String
  | (p, true) => String.ofList (p ++ ['\n'])
  | (p, false) => String.ofList p

theorem readPieces_eq_closePieces (cs : List Char) :
    readPieces cs = closePieces (cs.splitOn '\n') := by
  induction cs with
  | nil => rfl
  | cons c cs ih =>
    obtain ⟨x, xs, hx⟩ := List.exists_cons_of_ne_nil (List.splitOn_ne_nil '\n' cs)
    rw [List.splitOn_cons_eq_if_modifyHead, readPieces, ih, hx]
    by_cases hc : c = '\n'
    · simp [hc, closePieces]
    · cases xs with
      | nil => cases x <;> simp [hc, closePieces]
      | cons y ys => simp [hc, closePieces]

theorem not_mem_readPieces {cs : List Char} {x : List Char × Bool} (hx : x ∈ readPieces cs) :
    '\n' ∉ x.1 := by
  induction cs generalizing x with
  | nil => simp [readPieces] at hx
  | cons c cs ih =>
    unfold readPieces at hx
    by_cases hc : c = '\n'
    · simp only [hc, if_true, List.mem_cons] at hx
      rcases hx with rfl | hx
      · simp
      · exact ih hx
    · rw [if_neg hc] at hx
      -- only the first piece of the rest changes: it gains `c` in front
      generalize readPieces cs = r at hx ih
      cases r with
      | nil =>
        simp only [List.mem_singleton] at hx
        subst hx
        simpa using Ne.symm hc
      | cons y ys =>
        obtain ⟨p, ended⟩ := y
        simp only [List.mem_cons] at hx
        rcases hx with rfl | hx
        · simpa [Ne.symm hc] using ih (List.mem_cons_self ..)
        · exact ih (List.mem_cons_of_mem _ hx)

theorem closePieces_concat (init : List (List Char)) (last : List Char) :
    closePieces (init ++ [last]) = init.map (·, true) ++ closePieces [last] := by
  induction init with
  | nil => rfl
  | cons p init ih =>
    cases init with
    | nil => rfl
    | cons q init =>
      calc closePieces (p :: q :: init ++ [last])
          = (p, true) :: closePieces (q :: init ++ [last]) := rfl
        _ = _ := by rw [ih]; rfl

theorem pieceText_ended (p : List Char) : pieceText (p, true) = String.ofList p ++ "\n" := by
  rw [pieceText, String.ofList_append]

/-- The lines the session reads are the texts of the pieces of its input. -/
theorem readLines_eq (s : String) : readLines s = (readPieces s.toList).map pieceText := by
  obtain ⟨init, last, hparts⟩ : ∃ init last, s.toList.splitOn '\n' = init ++ [last] := by
    rcases List.eq_nil_or_concat (s.toList.splitOn '\n') with h | h
    · exact absurd h (List.splitOn_ne_nil _ _)
    · simpa using h
  rw [readPieces_eq_closePieces, hparts, closePieces_concat]
  unfold readLines
  rw [hparts]
  simp only [List.map_append, List.map_cons, List.map_nil, List.dropLast_concat,
    List.getLast?_concat, List.map_map, Function.comp_def, pieceText_ended]
  -- the match of the session on its last part: empty, or a line without a line feed
  split
  next hl =>
    rw [← String.ofList_nil, Option.some_inj, String.ofList_inj] at hl
    simp [hl, closePieces]
  next hl => simp at hl
  next l hne hl =>
    rw [Option.some_inj] at hl
    have hlast : last ≠ [] := by
      rintro rfl
      exact hne hl.symm
    simp [closePieces, hlast, pieceText, hl]

/-- A read piece loses its line feed and one carriage return before it. -/
theorem chomp_pieceText {x : List Char × Bool} (hx : '\n' ∉ x.1) :
    chomp (pieceText x) = pieceLine x := by
  obtain ⟨p, ended⟩ := x
  cases ended with
  | true => simp [chomp, pieceText, pieceLine]
  | false =>
    have hlast : p.getLast? ≠ some '\n' := fun h => hx (List.mem_of_getLast? h)
    simp [chomp, pieceText, pieceLine, hlast]

/-- The session reads the lines of its input. -/
theorem readLines_chomp (s : String) : (readLines s).map chomp = inputLines s := by
  rw [readLines_eq, inputLines, List.map_map]
  exact List.map_congr_left fun x hx => chomp_pieceText (not_mem_readPieces hx)

/-! ### Groups of lines -/

theorem groups_nil : groups [] = [] := by
  rw [groups]

theorem groups_open {l : String} (hl : l.isEmpty = true) (ls : List String) :
    groups (l :: ls) =
      .block (ls.takeWhile (!·.isEmpty)) :: groups ((ls.dropWhile (!·.isEmpty)).drop 1) := by
  rw [groups, if_pos hl]

theorem groups_single {l : String} (hl : l.isEmpty = false) (ls : List String) :
    groups (l :: ls) = .single l :: groups ls := by
  rw [groups, if_neg (by simp [hl])]

theorem Group.notice_single (line : String) : (Group.single line).notice = "" :=
  rfl

theorem Group.notice_block (lines : List String) : (Group.block lines).notice = blockNotice :=
  rfl

/-! ### The session, one line at a time

Each read line moves the session by one step of `run`; the steps below say what a step writes
once the rest of the run is known. -/

section Run

variable (prompt : String) (showSpans : Bool)

theorem Transcript.after_empty (t : Transcript) : t.after "" = t := by
  cases t
  simp [Transcript.after]

theorem exists_lex_ok (source : String) : ∃ r, lex source = .ok r :=
  Lexer.collect_ok (Cursor.represents_start source) []

theorem evaluate_of_lex {source : String} {r : Except LexError (List Token)}
    (hr : lex source = .ok r) : evaluate showSpans source = .ok (report showSpans r) := by
  rw [evaluate_eq, hr]
  rfl

theorem run_end : run prompt showSpans .prompt [] = .ok ⟨prompt, false⟩ := rfl

theorem run_block_end {lines : List String} {r : Except LexError (List Token)}
    (hr : lex (blockText lines) = .ok r) :
    run prompt showSpans (.block lines) [] = .ok ⟨report showSpans r ++ prompt, false⟩ := by
  simp only [run, Stage.close, evaluate_of_lex showSpans hr]
  rfl

theorem run_open {raw : String} (hl : (chomp raw).isEmpty = true) {raws : List (Option String)}
    {t : Transcript} (ht : run prompt showSpans (.block []) raws = .ok t) :
    run prompt showSpans .prompt (some raw :: raws) = .ok (t.after (prompt ++ blockNotice)) := by
  simp only [run, Stage.take, hl, if_true, Stage.preface, bind, Except.bind, ht]
  rfl

theorem run_single {raw : String} (hl : (chomp raw).isEmpty = false)
    {r : Except LexError (List Token)} (hr : lex (chomp raw) = .ok r) {raws : List (Option String)}
    {t : Transcript} (ht : run prompt showSpans .prompt raws = .ok t) :
    run prompt showSpans .prompt (some raw :: raws) =
      .ok (t.after (prompt ++ report showSpans r)) := by
  simp only [run, Stage.take, hl, Bool.false_eq_true, if_false, Stage.preface,
    evaluate_of_lex showSpans hr, bind, Except.bind, Except.map, ht]
  rfl

theorem run_close {raw : String} (hl : (chomp raw).isEmpty = true) {lines : List String}
    {r : Except LexError (List Token)} (hr : lex (blockText lines) = .ok r)
    {raws : List (Option String)} {t : Transcript} (ht : run prompt showSpans .prompt raws = .ok t) :
    run prompt showSpans (.block lines) (some raw :: raws) = .ok (t.after (report showSpans r)) := by
  simp only [run, Stage.take, hl, if_true, Stage.preface, evaluate_of_lex showSpans hr, bind,
    Except.bind, Except.map, ht, String.empty_append]
  rfl

theorem run_gather {raw : String} (hl : (chomp raw).isEmpty = false) (lines : List String)
    (raws : List (Option String)) :
    run prompt showSpans (.block lines) (some raw :: raws) =
      run prompt showSpans (.block (lines ++ [chomp raw])) raws := by
  simp only [run, Stage.take, hl, Bool.false_eq_true, if_false, Stage.preface]
  show (run prompt showSpans _ raws >>= fun t => pure (t.after ("" ++ ""))) = _
  simp only [String.append_empty, Transcript.after_empty, bind_pure]

theorem transcript_cons {g : Group} {gs : List Group} {r : Except LexError (List Token)}
    {rest : String} (hr : lex g.source = .ok r) (hrest : transcript prompt showSpans gs = .ok rest) :
    transcript prompt showSpans (g :: gs) = .ok (prompt ++ g.notice ++ report showSpans r ++ rest) := by
  rw [transcript, hr, hrest]
  rfl

/-- Lexing never faults, so neither does the transcript. -/
theorem transcript_ok (gs : List Group) : ∃ out, transcript prompt showSpans gs = .ok out := by
  induction gs with
  | nil => exact ⟨prompt, rfl⟩
  | cons g gs ih =>
    obtain ⟨rest, hrest⟩ := ih
    obtain ⟨r, hr⟩ := exists_lex_ok g.source
    exact ⟨_, transcript_cons prompt showSpans hr hrest⟩

/-- The session over the lines `raws`, which it reads as `raws.map chomp`. From the prompt it writes
the transcript of their groups. Inside a block holding `lines` it writes the report of the block
once the lines up to the next empty one are added, and then the transcript of the groups after that
empty line. -/
theorem run_lines (raws : List String) :
    (∀ out, transcript prompt showSpans (groups (raws.map chomp)) = .ok out →
      run prompt showSpans .prompt (raws.map some) = .ok ⟨out, false⟩) ∧
    ∀ lines r rest,
      lex (blockText (lines ++ (raws.map chomp).takeWhile (!·.isEmpty))) = .ok r →
      transcript prompt showSpans (groups (((raws.map chomp).dropWhile (!·.isEmpty)).drop 1)) =
        .ok rest →
      run prompt showSpans (.block lines) (raws.map some) = .ok ⟨report showSpans r ++ rest, false⟩ := by
  -- one induction for both stages: a line read at one stage leaves the session at the other
  induction raws with
  | nil =>
    simp only [List.map_nil, List.takeWhile_nil, List.dropWhile_nil, List.drop_nil,
      List.append_nil, groups_nil]
    refine ⟨fun out hout => ?_, fun lines r rest hr hrest => ?_⟩
    · obtain rfl : prompt = out := Except.ok.inj hout
      exact run_end prompt showSpans
    · obtain rfl : prompt = rest := Except.ok.inj hrest
      exact run_block_end prompt showSpans hr
  | cons raw raws ih =>
    obtain ⟨hprompt, hblock⟩ := ih
    simp only [List.map_cons]
    cases hl : (chomp raw).isEmpty with
    | true =>
      simp only [groups_open hl, List.takeWhile_cons, List.dropWhile_cons, hl, Bool.not_true,
        Bool.false_eq_true, if_false, List.append_nil, List.drop_succ_cons, List.drop_zero]
      refine ⟨fun out hout => ?_, fun lines r rest hr hrest => ?_⟩
      · -- an empty line at the prompt opens a block
        obtain ⟨r, hr⟩ := exists_lex_ok (Group.block ((raws.map chomp).takeWhile (!·.isEmpty))).source
        obtain ⟨rest, hrest⟩ := transcript_ok prompt showSpans
          (groups (((raws.map chomp).dropWhile (!·.isEmpty)).drop 1))
        rw [transcript_cons prompt showSpans hr hrest] at hout
        obtain rfl := Except.ok.inj hout
        rw [run_open prompt showSpans hl (hblock [] r rest hr hrest)]
        simp only [Transcript.after, Group.notice_block, String.append_assoc]
      · -- an empty line inside a block closes it
        rw [run_close prompt showSpans hl hr (hprompt rest hrest)]
        rfl
    | false =>
      simp only [groups_single hl, List.takeWhile_cons, List.dropWhile_cons, hl, Bool.not_false,
        if_true]
      refine ⟨fun out hout => ?_, fun lines r rest hr hrest => ?_⟩
      · -- a line at the prompt is lexed on its own
        obtain ⟨r, hr⟩ := exists_lex_ok (Group.single (chomp raw)).source
        obtain ⟨rest, hrest⟩ := transcript_ok prompt showSpans (groups (raws.map chomp))
        rw [transcript_cons prompt showSpans hr hrest] at hout
        obtain rfl := Except.ok.inj hout
        rw [run_single prompt showSpans hl hr (hprompt rest hrest)]
        simp only [Transcript.after, Group.notice_single, String.append_empty, String.append_assoc]
      · -- a line inside a block is gathered
        rw [run_gather prompt showSpans hl]
        exact hblock (lines ++ [chomp raw]) r rest (by rwa [List.append_assoc]) hrest

/-- An interactive session over a whole input text ends normally, having written the transcript of
the groups of the lines of the text. -/
theorem run_transcript (text : String) :
    ∃ out, transcript prompt showSpans (groups (inputLines text)) = .ok out ∧
      run prompt showSpans .prompt ((readLines text).map some) = .ok ⟨out, false⟩ := by
  obtain ⟨out, hout⟩ := transcript_ok prompt showSpans (groups (inputLines text))
  refine ⟨out, hout, (run_lines prompt showSpans (readLines text)).1 out ?_⟩
  rwa [readLines_chomp]

end Run

end Lexis.Session
