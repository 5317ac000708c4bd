import LintRun.Proofs.Run.Linting

/-!
# Linting asks one process after another

A question is a process together with the lines that its result calls for.  Asking a row of
questions gives the results that the runner replies one after another (`value_ask`), and what
happens is one exchange after another: a start with its reply, followed by its lines
(`events_ask`).

Linting is a line in verbose mode, a row of questions to the tool, and at most one question to
the fixer (`lint_eq_ask`).  Its status is read off the results of the first row
(`status_lint`), so that nothing a fixer replies has to do with it.

The gain is that questions are data.  An action may look at a result before it decides what to
start next; a row of questions may not, so which processes it starts is plain from the row, and
the state, the value and the events of asking it are each one recursion over the row.  The only
place where linting does look before it goes on is between the two rows: whether there is a
question to the fixer depends on the status.

Each equation `.._eq_ask` says that a function of the program is such a row, by induction on
the files where there is a loop.  After that no proof opens these functions again: what is
wanted of linting is read off `lint_eq_ask`, `status_lint` and `events_lint`.
-/

namespace LintRun

variable {σ : Type}

/-! ## 1. Replies in a row

A runner goes on to a new state with each answer, so the replies to a row are not the replies
to its members in one state. -/

namespace Runner

variable (runner : Runner σ)

/-- The replies to some processes that are started one after another. -/
def replies : σ → List Invocation → List Reply
  | _, [] => []
  | s, i :: is => (runner.answer i s).1 :: replies (runner.answer i s).2 is

/-- The results among these replies. -/
def results (s : σ) (is : List Invocation) : List (Except StartError Output) :=
  (runner.replies s is).map Reply.result

/-- Each process has a result, also one that could not be started. -/
theorem length_results (s : σ) (is : List Invocation) :
    (runner.results s is).length = is.length := by
  induction is generalizing s with
  | nil => rfl
  | cons i is ih => exact congrArg (· + 1) (ih _)

end Runner

/-! ## 2. Questions and exchanges

What is written after a process is a function of its result, and belongs to the question: it is
known before the process is started which lines go with which result. -/

/-- A process to be asked, and the lines that its result calls for. -/
structure Question where
  invocation : Invocation
  lines : Except StartError Output → List String

/-- A process that was started, what it replied, and the lines that were written after it. -/
structure Exchange where
  invocation : Invocation
  reply : Reply
  lines : List String

/-- The events of an exchange. -/
def Exchange.events (e : Exchange) : List Event :=
  .ran e.invocation e.reply :: e.lines.map .noted

/-- What comes of a question that is replied to. -/
def Question.replied (q : Question) (reply : Reply) : Exchange :=
  ⟨q.invocation, reply, q.lines reply.result⟩

namespace Runner

variable (runner : Runner σ)

/-- What comes of some questions that are asked one after another. -/
def exchanges : σ → List Question → List Exchange
  | _, [] => []
  | s, q :: qs =>
    q.replied (runner.answer q.invocation s).1 :: exchanges (runner.answer q.invocation s).2 qs

/-- Exchanges are in the order of the questions, none left out. -/
theorem invocations_exchanges (s : σ) (qs : List Question) :
    (runner.exchanges s qs).map Exchange.invocation = qs.map Question.invocation := by
  induction qs generalizing s with
  | nil => rfl
  | cons q qs ih => exact congrArg (_ :: ·) (ih _)

/-- The replies in exchanges are those of the runner in a row. -/
theorem replies_exchanges (s : σ) (qs : List Question) :
    (runner.exchanges s qs).map Exchange.reply =
      runner.replies s (qs.map Question.invocation) := by
  induction qs generalizing s with
  | nil => rfl
  | cons q qs ih => exact congrArg (_ :: ·) (ih _)

/-- **An exchange** has the lines that the question in its place calls for. -/
theorem getElem?_exchanges {s : σ} {qs : List Question} {k : Nat} {e : Exchange}
    (h : (runner.exchanges s qs)[k]? = some e) : ∃ q, qs[k]? = some q ∧ e = q.replied e.reply := by
  induction qs generalizing s k with
  | nil => cases h
  | cons q qs ih =>
    cases k with
    | zero =>
      cases h
      exact ⟨q, rfl, rfl⟩
    | succ k => exact ih h

end Runner

namespace Action

/-- Asks one process after another and gives their results. -/
def ask : List Question → Action σ (List (Except StartError Output))
  | [] => pure []
  | q :: qs => do
    let result ← consult q.invocation q.lines id
    let results ← ask qs
    return result :: results

/-- A result can be handed on as it is, and read afterwards. -/
theorem consult_eq {α : Type} (i : Invocation) (lines : Except StartError Output → List String)
    (meaning : Except StartError Output → α) :
    (consult i lines meaning : Action σ α) =
      consult i lines id >>= fun result => pure (meaning result) := by
  simp only [consult, bind_assoc, pure_bind, id_eq]

variable (qs : List Question) (runner : Runner σ) (s : σ)

/-- Asking leads to the state after the processes that were asked. -/
theorem state_ask :
    ((ask qs).run runner s).state = runner.after s (qs.map Question.invocation) := by
  induction qs generalizing s with
  | nil => rfl
  | cons q qs ih => exact ih _

/-- **The results** are those that the runner replies. -/
theorem value_ask :
    ((ask qs).run runner s).value = runner.results s (qs.map Question.invocation) := by
  induction qs generalizing s with
  | nil => rfl
  | cons q qs ih => exact congrArg (_ :: ·) (ih _)

/-- **What happens** is one exchange after another. -/
theorem events_ask :
    ((ask qs).run runner s).events = (runner.exchanges s qs).flatMap Exchange.events := by
  induction qs generalizing s with
  | nil => rfl
  | cons q qs ih =>
    show ([_] ++ (_ ++ [])) ++ (((ask qs).run runner _).events ++ []) = _
    rw [List.append_nil, List.append_nil, ih]
    rfl

end Action

/-! ## 3. The tool

Over all files at once the row has one question, or none if there are no files; one by one it
has a question for each file. -/

section Tools

variable (c : Category) (fix : Bool)

/-- The problems of files, by the results of starting the tool over each. -/
def Tool.problemsGiven (t : Tool) (files : List Path)
    (results : List (Except StartError Output)) : List (Path × Problem) :=
  (files.zip results).filterMap fun (file, result) => (t.problemIn result).map (file, ·)

/-- The problems of a row begin with that of its first file, if it has one. -/
theorem Tool.problemsGiven_cons (t : Tool) (file : Path) (files : List Path)
    (result : Except StartError Output) (results : List (Except StartError Output)) :
    t.problemsGiven (file :: files) (result :: results) =
      (t.problemIn result).toList.map (file, ·) ++ t.problemsGiven files results := by
  simp only [problemsGiven, List.zip_cons_cons, List.filterMap_cons]
  cases t.problemIn result with
  | none => rfl
  | some p => rfl

/-- The status of files that are linted one by one, by their problems. -/
def statusOfProblems (problems : List (Path × Problem)) : Status :=
  if problems.isEmpty then .clean else .failed (.files problems)

/-- The question about one file. -/
def Category.fileQuestion (file : Path) : Question :=
  ⟨c.tool.invocation fix [file], c.fileLines file⟩

/-- **The loop over the files** is a row of questions.  That a file has a problem does not keep
the tool from the next one. -/
theorem lintFiles_eq_ask (files : List Path) :
    (lintFiles c fix files : Action σ _) =
      Action.ask (files.map (c.fileQuestion fix)) >>= fun results =>
        pure (c.tool.problemsGiven files results) := by
  induction files with
  | nil => rfl
  | cons file files ih =>
    rw [lintFiles, lintFile_eq, Action.consult_eq, ih, List.map_cons, Action.ask]
    simp only [bind_assoc, pure_bind, Tool.problemsGiven_cons]
    rfl

/-- The questions to a category's tool about some files. -/
def Category.questions (files : List Path) : List Question :=
  match c.mode with
  | .batch => if files.isEmpty then [] else [⟨c.tool.invocation fix files, c.batchLines⟩]
  | .perFile => files.map (c.fileQuestion fix)

/-- The questions are about the starts of the tool. -/
theorem Category.invocations_questions (files : List Path) :
    (c.questions fix files).map Question.invocation = c.toolStarts fix files := by
  unfold questions toolStarts
  cases c.mode with
  | batch =>
    dsimp only
    split
    · rfl
    · rfl
  | perFile =>
    rw [List.map_map]
    rfl

/-- **The status of a category**, by the results of starting its tool. -/
def Category.statusGiven (files : List Path) (results : List (Except StartError Output)) :
    Status :=
  if files.isEmpty then .skipped .noFiles
  else
    match c.mode with
    | .batch => (results.head?.map batchStatus).getD .clean
    | .perFile => statusOfProblems (c.tool.problemsGiven files results)

/-- Running the tool is asking its questions and reading the status off the results. -/
theorem runTool_eq_ask {files : List Path} (h : files.isEmpty = false) :
    (runTool c fix files : Action σ Status) =
      Action.ask (c.questions fix files) >>= fun results =>
        pure (c.statusGiven files results) := by
  unfold runTool Category.questions Category.statusGiven
  cases c.mode with
  | batch =>
    rw [lintAll_eq, Action.consult_eq]
    simp only [h, Bool.false_eq_true, if_false, Action.ask, bind_assoc, pure_bind]
    rfl
  | perFile =>
    simp only [h, Bool.false_eq_true, if_false, lintFiles_eq_ask, bind_assoc, pure_bind]
    rfl

end Tools

/-! ## 4. Linting

The two rows are asked in one go, and the status stands between them. -/

section Linting

variable (c : Category) (o : LintOptions)

/-- The question to a category's fixer, if the status calls for one. -/
def Category.fixerQuestions (files : List Path) (status : Status) : List Question :=
  (c.fixerStarts o files status).map fun i => ⟨i, c.fixerLines⟩

/-- The question to the fixer is about its start. -/
theorem Category.invocations_fixerQuestions (files : List Path) (status : Status) :
    (c.fixerQuestions o files status).map Question.invocation = c.fixerStarts o files status := by
  rw [fixerQuestions, List.map_map]
  exact List.map_id _

/-- Nothing is made of what a fixer replies, so whatever follows does not see it. -/
theorem followUp_eq_ask {α : Type} (files : List Path) (status : Status) (a : Action σ α) :
    (c.followUp o files status >>= fun _ => a) =
      Action.ask (c.fixerQuestions o files status) >>= fun _ => a := by
  unfold Category.followUp Category.fixerQuestions Category.fixerStarts
  cases c.fixer with
  | none => rfl
  | some fixer =>
    dsimp only
    split
    · rw [runFixer_eq, Action.consult_eq]
      simp only [List.map_cons, List.map_nil, Action.ask, bind_assoc, pure_bind]
    · rfl

/-- Linting without its line in verbose mode; no files means no questions and no fixer. -/
theorem lintQuietly_eq_ask (files : List Path) :
    (c.lintQuietly o files : Action σ Status) =
      Action.ask (c.questions o.fix files) >>= fun results =>
        Action.ask (c.fixerQuestions o files (c.statusGiven files results)) >>= fun _ =>
          pure (c.statusGiven files results) := by
  cases h : files.isEmpty with
  | true =>
    have hnone : c.questions o.fix files = [] := by
      rw [← List.map_eq_nil_iff, c.invocations_questions, List.isEmpty_iff.mp h, c.toolStarts_nil]
    have hskipped (results : List (Except StartError Output)) :
        c.statusGiven files results = .skipped .noFiles := by
      rw [Category.statusGiven, h]
      rfl
    have hfixer : c.fixerQuestions o files (.skipped .noFiles) = [] := by
      rw [Category.fixerQuestions, c.fixerStarts_of_not_isFixable o rfl]
      rfl
    simp only [Category.lintQuietly, h, hnone, hskipped, hfixer, Action.ask, pure_bind, if_true]
  | false =>
    rw [Category.lintQuietly, h, runTool_eq_ask c o.fix h]
    simp only [Bool.false_eq_true, if_false, bind_assoc, pure_bind, followUp_eq_ask]

/-- The line in verbose mode. -/
def Category.progressLines (files : List Path) : List String :=
  if o.verbose then [progressLine c files] else []

/-- **Linting asks the tool**, reads the status off its results, and asks the fixer if the
status calls for it. -/
theorem lint_eq_ask (files : PathSet) :
    (lint c o files : Action σ Status) =
      Action.noteAll (c.progressLines o files.toList) >>= fun _ =>
        Action.ask (c.questions o.fix files.toList) >>= fun results =>
          Action.ask (c.fixerQuestions o files.toList (c.statusGiven files.toList results)) >>=
            fun _ => pure (c.statusGiven files.toList results) := by
  rw [lint_eq, lintQuietly_eq_ask]
  rfl

variable (files : PathSet) (runner : Runner σ) (s : σ)

/-- **The status** is read off the results of the tool's starts. -/
theorem status_lint :
    ((lint c o files).run runner s).value =
      c.statusGiven files.toList (runner.results s (c.toolStarts o.fix files.toList)) := by
  rw [lint_eq_ask, ← c.invocations_questions, ← Action.value_ask]
  rfl

/-- What comes of asking a category's tool. -/
def Category.toolExchanges : List Exchange :=
  runner.exchanges s (c.questions o.fix files.toList)

/-- The exchanges with the tool are over the starts of the tool. -/
theorem Category.invocations_toolExchanges :
    (c.toolExchanges o files runner s).map Exchange.invocation =
      c.toolStarts o.fix files.toList := by
  rw [toolExchanges, Runner.invocations_exchanges, invocations_questions]

/-- They hold the replies that the runner gives to these starts in a row. -/
theorem Category.replies_toolExchanges :
    (c.toolExchanges o files runner s).map Exchange.reply =
      runner.replies s (c.toolStarts o.fix files.toList) := by
  rw [toolExchanges, Runner.replies_exchanges, invocations_questions]

/-- What comes of asking a category's fixer after that, if the status calls for it. -/
def Category.fixerExchanges : List Exchange :=
  runner.exchanges (runner.after s (c.toolStarts o.fix files.toList))
    (c.fixerQuestions o files.toList ((lint c o files).run runner s).value)

/-- There is an exchange with the fixer if the status calls for one. -/
theorem Category.invocations_fixerExchanges :
    (c.fixerExchanges o files runner s).map Exchange.invocation =
      c.fixerStarts o files.toList ((lint c o files).run runner s).value := by
  rw [fixerExchanges, Runner.invocations_exchanges, invocations_fixerQuestions]

/-- After a fixer a line is written only about a start that failed. -/
theorem Category.lines_of_mem_fixerExchanges {e : Exchange}
    (h : e ∈ c.fixerExchanges o files runner s) : e.lines = c.fixerLines e.reply.result := by
  obtain ⟨k, hk⟩ := List.mem_iff_getElem?.mp h
  obtain ⟨q, hq, he⟩ := runner.getElem?_exchanges hk
  obtain ⟨i, -, rfl⟩ := List.mem_map.mp (List.mem_of_getElem? hq)
  exact congrArg Exchange.lines he

/-- **The events of linting**: the line in verbose mode, then the exchanges with the tool, then
the one with the fixer if there is one. -/
theorem events_lint :
    ((lint c o files).run runner s).events =
      (c.progressLines o files.toList).map .noted ++
        (c.toolExchanges o files runner s ++ c.fixerExchanges o files runner s).flatMap
          Exchange.events := by
  rw [List.flatMap_append, Category.toolExchanges, Category.fixerExchanges, status_lint,
    ← c.invocations_questions, ← Action.value_ask, ← Action.state_ask, ← Action.events_ask,
    ← Action.events_ask, lint_eq_ask]
  show _ ++ (_ ++ (_ ++ [])) = _
  rw [List.append_nil]
  rfl

end Linting

end LintRun
