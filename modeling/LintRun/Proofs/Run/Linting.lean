import LintRun.Proofs.Run.Causality
import LintRun.Run.Lint

/-!
# What linting one category starts, and what comes of it

Linting is a row of consultations (`lintAll_eq`, `lintFile_eq`, `runFixer_eq`): a process is
started, lines are written about its result, and the result means something.

* `started_lint`: the tool is started once over all files or once over each, and after it the
  fixer at most once.  Which files the tool gets, and how often it is started, depends on the
  files and the mode alone, not on what any process replied.
* `exits_lint`: a status is a failure exactly if its exit code is not zero, and then the code
  is what the tool said of all files at once, or the general one.

Everything here is about one category and the files that are left of it.  The two modes are
taken apart in few places: a start over all files is one consultation and a loop over the files
is one for each, and from there on `toolStarts` and `failureCode` have the difference in them,
so that what is said of both modes is said once.  The loop is gone through by induction on the
files; no step looks at what came of an earlier one, and this is what makes the starts
independent of the replies.

The program asks twice whether there is a fixer, once for whether it may help and once to run
it.  `followUp` is the two in one, and `lint_eq` shows that nothing is lost.
-/

namespace LintRun

variable {σ : Type}

/-! ## 1. Consultations

Each of the three functions that start a process comes to one consultation.  The lines that are
written and the meaning of the result are named, so that later proofs can speak of them. -/

section Consultations

variable (c : Category) (fix : Bool)

/-- What is written about a start over all files. -/
def Category.batchLines : Except StartError Output → List String
  | .ok output => c.noise.signal output.stderr
  | .error e => [c.key ++ ": " ++ e.message]

/-- What a start over all files means. -/
def batchStatus : Except StartError Output → Status
  | .ok output => if output.succeeded then .clean else .failed (.toolReported output.code)
  | .error e => .failed (.notStarted e.message)

/-- **Over all files at once**: the tool is asked once, what it says is shown without noise,
and its code is the status. -/
theorem lintAll_eq (files : List Path) :
    (lintAll c fix files : Action σ Status) =
      .consult (c.tool.invocation fix files) c.batchLines batchStatus := by
  refine congrArg (Action.start _ >>= ·) (funext fun result => ?_)
  cases result with
  | ok output => rfl
  | error e => rfl

/-- What a start over one file says about it. -/
def Tool.problemIn (t : Tool) : Except StartError Output → Option Problem
  | .ok output => t.problemOf output.code
  | .error e => some (.notStarted e.message)

/-- What a tool had to say that is no noise. -/
def Category.signalLines : Except StartError Output → List String
  | .ok output => c.noise.signal output.stderr
  | .error _ => []

/-- What is written about a start over one file: what the tool had to say, then the problem. -/
def Category.fileLines (file : Path) (result : Except StartError Output) : List String :=
  c.signalLines result ++ (c.tool.problemIn result).toList.map (c.tool.problemLine file)

/-- **Over one file**: the tool is asked, what it says is shown without noise, and then the
problem is if there is one. -/
theorem lintFile_eq (file : Path) :
    (lintFile c fix file : Action σ (Option Problem)) =
      .consult (c.tool.invocation fix [file]) (c.fileLines file) c.tool.problemIn := by
  refine congrArg (Action.start _ >>= ·) (funext fun result => ?_)
  rw [show c.fileLines file result = _ ++ _ from rfl, Action.noteAll_append, bind_assoc]
  cases result with
  | ok output =>
    refine congrArg (Action.noteAll _ >>= ·) (funext fun _ => ?_)
    rw [pure_bind, Tool.problemIn]
    cases c.tool.problemOf output.code with
    | some p => rfl
    | none => rfl
  | error e => rfl

/-- What is written about the start of a fixer. -/
def Category.fixerLines : Except StartError Output → List String
  | .ok _ => []
  | .error e => [c.key ++ " fixer: " ++ e.message]

/-- **The fixer** is asked, and only a start that failed is written about. -/
theorem runFixer_eq (fixer : Tool) (files : List Path) :
    (runFixer c fixer fix files : Action σ Unit) =
      .consult (fixer.invocation fix files) c.fixerLines fun _ => () := by
  refine congrArg (Action.start _ >>= ·) (funext fun result => ?_)
  cases result with
  | ok output => rfl
  | error e => rfl

end Consultations

/-! ## 2. One category, step by step

`lint_eq` is the last place where the body of `lint` is opened. -/

section Steps

variable (c : Category) (o : LintOptions)

/-- What follows the tool: the fixer, if it is wanted and may help. -/
def Category.followUp (files : List Path) (status : Status) : Action σ Unit :=
  match c.fixer with
  | some fixer => if o.fix && status.isFixable then runFixer c fixer o.fix files else pure ()
  | none => pure ()

/-- Linting, but for the line in verbose mode. -/
def Category.lintQuietly (files : List Path) : Action σ Status :=
  if files.isEmpty then pure (.skipped .noFiles)
  else do
    let status ← runTool c o.fix files
    c.followUp o files status
    return status

/-- **Linting** is a line in verbose mode, and then the rest. -/
theorem lint_eq (files : PathSet) :
    (lint c o files : Action σ Status) =
      Action.noteAll (if o.verbose then [progressLine c files.toList] else []) >>= fun _ =>
        c.lintQuietly o files.toList := by
  -- Both ends ask for a fixer first, but only `followUp` comes back to one `pure`.
  have hend (status : Status) :
      (match c.fixer with
        | some fixer =>
          if o.fix && status.isFixable then
            runFixer c fixer o.fix files.toList >>= fun _ => pure status
          else pure status
        | none => pure status : Action σ Status) =
      c.followUp o files.toList status >>= fun _ => pure status := by
    unfold Category.followUp
    cases c.fixer with
    | some fixer =>
      by_cases hwanted : o.fix && status.isFixable
      · simp only [if_pos hwanted]
      · simp only [if_neg hwanted, pure_bind]
    | none => rw [pure_bind]
  have hrest : (if files.toList.isEmpty then pure (.skipped .noFiles)
      else runTool c o.fix files.toList >>= fun status => _ : Action σ Status) =
      c.lintQuietly o files.toList :=
    congrArg (ite _ _) (congrArg (runTool c o.fix files.toList >>= ·) (funext hend))
  rw [← hrest]
  show (if o.verbose then _ else _ : Action σ Status) = _
  by_cases hverbose : o.verbose
  · rw [if_pos hverbose, if_pos hverbose]
    rfl
  · rw [if_neg hverbose, if_neg hverbose]
    rfl

/-- Without files there is nothing to lint, and this counts as skipped. -/
theorem lint_of_no_files {files : PathSet} (h : files.toList = []) (runner : Runner σ) (s : σ) :
    ((lint c o files).run runner s).value = .skipped .noFiles := by
  rw [lint_eq]
  show ((c.lintQuietly o files.toList).run runner s).value = _
  rw [h]
  rfl

/-! What holds of all steps holds of linting. -/

variable {P : (α : Type) → Action σ α → Prop} (h : Action.Stepwise P)

include h

/-- By induction on the files. -/
theorem Action.Stepwise.lintFiles (fix : Bool) (files : List Path) :
    P _ (lintFiles c fix files) := by
  induction files with
  | nil => exact h.pure _
  | cons file files ih =>
    refine h.bind ?_ fun _ => h.bind ih fun _ => h.pure _
    rw [lintFile_eq]
    exact h.consult ..

/-- In either mode. -/
theorem Action.Stepwise.runTool (fix : Bool) (files : List Path) : P _ (runTool c fix files) := by
  unfold LintRun.runTool
  cases c.mode with
  | batch =>
    show P _ (lintAll c fix files)
    rw [lintAll_eq]
    exact h.consult ..
  | perFile => exact h.bind (h.lintFiles c fix files) fun _ => h.pure _

/-- Whether or not there is a fixer to run. -/
theorem Action.Stepwise.followUp (files : List Path) (status : Status) :
    P _ (c.followUp o files status) := by
  unfold Category.followUp
  cases c.fixer with
  | some fixer =>
    dsimp only
    split
    · rw [runFixer_eq]
      exact h.consult ..
    · exact h.pure _
  | none => exact h.pure _

/-- **Linting has the properties of its steps.** -/
theorem Action.Stepwise.lint (files : PathSet) : P _ (lint c o files) := by
  rw [lint_eq]
  refine h.bind (h.noteAll _) fun _ => ?_
  unfold Category.lintQuietly
  split
  · exact h.pure _
  · exact h.bind (h.runTool c o.fix _) fun status =>
      h.bind (h.followUp c o _ status) fun _ => h.pure _

end Steps

/-! ## 3. What is started

The starts are lists that are given beforehand, apart from the fixer, which waits for the
status. -/

section Starts

variable (c : Category) (o : LintOptions) (fix : Bool)

/-- The starts of a category's tool over some files. -/
def Category.toolStarts (files : List Path) : List Invocation :=
  match c.mode with
  | .batch => if files.isEmpty then [] else [c.tool.invocation fix files]
  | .perFile => files.map fun file => c.tool.invocation fix [file]

/-- The start of a category's fixer over some files, if it has one and the status calls
for it. -/
def Category.fixerStarts (files : List Path) (status : Status) : List Invocation :=
  match c.fixer with
  | some fixer => if o.fix && status.isFixable then [fixer.invocation o.fix files] else []
  | none => []

/-- The starts of a category, in order. -/
def Category.starts (files : List Path) (status : Status) : List Invocation :=
  c.toolStarts o.fix files ++ c.fixerStarts o files status

/-- **There is at most one start of a fixer**, over all files at once in either mode. -/
theorem Category.length_fixerStarts_le (files : List Path) (status : Status) :
    (c.fixerStarts o files status).length ≤ 1 := by
  unfold fixerStarts
  split
  · split
    · exact Nat.le_refl 1
    · exact Nat.zero_le 1
  · exact Nat.zero_le 1

/-- No files, no start, in either mode. -/
theorem Category.toolStarts_nil : c.toolStarts fix [] = [] := by
  unfold toolStarts
  cases c.mode with
  | batch => rfl
  | perFile => rfl

/-- A status that cannot be helped calls for no fixer. -/
theorem Category.fixerStarts_of_not_isFixable {status : Status} (h : status.isFixable = false)
    (files : List Path) : c.fixerStarts o files status = [] := by
  unfold fixerStarts
  rw [h, Bool.and_false]
  cases c.fixer with
  | some fixer => rfl
  | none => rfl

/-- A start of a category's tool or of its fixer over some files. -/
def Category.StartsOver (files : List Path) (i : Invocation) : Prop :=
  i = c.tool.invocation fix files ∨
    ∃ fixer, c.fixer = some fixer ∧ i = fixer.invocation fix files

/-- Tools and fixers share their standard output. -/
theorem Category.StartsOver.capturesOutput {c : Category} {fix : Bool} {files : List Path}
    {i : Invocation} (h : c.StartsOver fix files i) : i.capturesOutput = false := by
  obtain rfl | ⟨fixer, -, rfl⟩ := h
  · rfl
  · rfl

/-- The tool is started over files that it was given. -/
theorem Category.startsOver_of_mem_toolStarts {files : List Path} {i : Invocation}
    (h : i ∈ c.toolStarts fix files) : ∃ given ⊆ files, c.StartsOver fix given i := by
  unfold toolStarts at h
  split at h
  · split at h
    · exact absurd h List.not_mem_nil
    · exact ⟨files, List.Subset.refl _, .inl (List.mem_singleton.mp h)⟩
  · obtain ⟨file, hfile, rfl⟩ := List.mem_map.mp h
    exact ⟨[file], List.cons_subset.mpr ⟨hfile, List.nil_subset _⟩, .inl rfl⟩

/-- The fixer is started over all files that linting was given. -/
theorem Category.startsOver_of_mem_fixerStarts {files : List Path} {status : Status}
    {i : Invocation} (h : i ∈ c.fixerStarts o files status) : c.StartsOver o.fix files i := by
  unfold fixerStarts at h
  split at h
  · rename_i fixer hfixer
    split at h
    · exact .inr ⟨fixer, hfixer, List.mem_singleton.mp h⟩
    · exact absurd h List.not_mem_nil
  · exact absurd h List.not_mem_nil

/-- **Every start of a category** is one of its tool or fixer over some of its files. -/
theorem Category.startsOver_of_mem_starts {files : List Path} {status : Status} {i : Invocation}
    (h : i ∈ c.starts o files status) : ∃ given ⊆ files, c.StartsOver o.fix given i := by
  rcases List.mem_append.mp h with h | h
  · exact c.startsOver_of_mem_toolStarts o.fix h
  · exact ⟨files, List.Subset.refl _, c.startsOver_of_mem_fixerStarts o h⟩

/-- **The tool is started for every file**, in order, whatever came of the files before. -/
theorem started_lintFiles (files : List Path) (runner : Runner σ) (s : σ) :
    ((lintFiles c fix files).run runner s).started =
      files.map fun file => c.tool.invocation fix [file] := by
  induction files generalizing s with
  | nil => rfl
  | cons file files ih =>
    rw [lintFiles, Action.started_bind, Action.started_bind, Action.started_pure, ih,
      lintFile_eq, Action.started_consult, List.append_nil]
    rfl

/-- Running the tool starts it as often as the mode says. -/
theorem started_runTool {files : List Path} (h : files.isEmpty = false) (runner : Runner σ)
    (s : σ) : ((runTool c fix files).run runner s).started = c.toolStarts fix files := by
  unfold runTool Category.toolStarts
  cases c.mode with
  | batch =>
    show ((lintAll c fix files).run runner s).started = if _ then _ else _
    rw [lintAll_eq, Action.started_consult, h]
    rfl
  | perFile =>
    show ((lintFiles c fix files >>= fun _ => pure _).run runner s).started = _
    rw [Action.started_bind, started_lintFiles, Action.started_pure, List.append_nil]

/-- The fixer is started if the status calls for it. -/
theorem started_followUp (files : List Path) (status : Status) (runner : Runner σ) (s : σ) :
    ((c.followUp o files status).run runner s).started = c.fixerStarts o files status := by
  unfold Category.followUp Category.fixerStarts
  cases c.fixer with
  | some fixer =>
    show ((if _ then _ else _ : Action σ Unit).run runner s).started = if _ then _ else _
    by_cases hwanted : o.fix && status.isFixable
    · rw [if_pos hwanted, if_pos hwanted, runFixer_eq, Action.started_consult]
    · rw [if_neg hwanted, if_neg hwanted]
      rfl
  | none => rfl

/-- The status that the starts are told by is the one that linting gives in the end. -/
theorem started_lintQuietly (files : List Path) (runner : Runner σ) (s : σ) :
    ((c.lintQuietly o files).run runner s).started =
      c.starts o files ((c.lintQuietly o files).run runner s).value := by
  unfold Category.lintQuietly Category.starts
  cases hempty : files.isEmpty with
  | true =>
    rw [List.isEmpty_iff.mp hempty, c.toolStarts_nil]
    exact (c.fixerStarts_of_not_isFixable o rfl []).symm
  | false =>
    show ((runTool c o.fix files >>= fun status => c.followUp o files status >>= fun _ =>
      pure status).run runner s).started = _
    rw [Action.started_bind, Action.started_bind, Action.started_pure, List.append_nil,
      started_runTool c o.fix hempty, started_followUp]
    rfl

/-- **What linting a category starts**: its tool over the files, then perhaps its fixer. -/
theorem started_lint (files : PathSet) (runner : Runner σ) (s : σ) :
    ((lint c o files).run runner s).started =
      c.starts o files.toList ((lint c o files).run runner s).value := by
  rw [lint_eq, Action.started_bind, Action.started_noteAll, started_lintQuietly]
  rfl

end Starts

/-! ## 4. What comes of it

A status and its exit code go together.  `Status.Exits` has both directions: a failure has a
code that is not zero, and what is no failure has zero. -/

section Statuses

variable (c : Category) (o : LintOptions) (fix : Bool)

/-- The exit code that a result stands for. -/
def resultCode : Except StartError Output → Int
  | .ok output => output.code
  | .error _ => generalFailure

/-- The exit code of a category if it fails: what its tool says of all files at once, or
the general one. -/
def Category.failureCode (files : List Path) (runner : Runner σ) (s : σ) : Int :=
  match c.mode with
  | .batch => resultCode (runner.answer (c.tool.invocation fix files) s).1.result
  | .perFile => generalFailure

/-- **A sound status**: no failure and exit code zero, or a failure with the code, which is
not zero. -/
def Status.Exits (status : Status) (code : Int) : Prop :=
  status.isFailure = false ∧ status.exitCode = 0 ∨
    status.isFailure = true ∧ status.exitCode = code ∧ code ≠ 0

/-- For a sound status, failing is having a code that is not zero. -/
theorem Status.Exits.isFailure_iff {status : Status} {code : Int} (h : status.Exits code) :
    status.isFailure = true ↔ status.exitCode ≠ 0 := by
  obtain ⟨hfine, hzero⟩ | ⟨hfailed, hcode, hne⟩ := h
  · rw [hfine, hzero]
    exact ⟨nofun, fun h => absurd rfl h⟩
  · rw [hfailed, hcode]
    exact ⟨fun _ => hne, fun _ => rfl⟩

/-- The code of a sound failure is the one that it is sound for. -/
theorem Status.Exits.exitCode_eq {status : Status} {code : Int} (h : status.Exits code)
    (hfailed : status.isFailure = true) : status.exitCode = code := by
  obtain ⟨hfine, -⟩ | ⟨-, hcode, -⟩ := h
  · rw [hfine] at hfailed
    cases hfailed
  · exact hcode

theorem generalFailure_ne_zero : generalFailure ≠ 0 := by decide

/-- A start over all files fails with the code of the tool, or with the general one if there
was no start; the tool's own zero is no failure. -/
theorem exits_batchStatus (result : Except StartError Output) :
    (batchStatus result).Exits (resultCode result) := by
  cases result with
  | ok output =>
    show (if output.succeeded then _ else _ : Status).Exits output.code
    by_cases hsucceeded : output.succeeded
    · rw [if_pos hsucceeded]
      exact .inl ⟨rfl, rfl⟩
    · rw [if_neg hsucceeded]
      refine .inr ⟨rfl, rfl, fun hzero => hsucceeded ?_⟩
      rw [Output.succeeded, beq_iff_eq]
      exact hzero
  | error e => exact .inr ⟨rfl, rfl, generalFailure_ne_zero⟩

/-- Running the tool gives a sound status in either mode. -/
theorem exits_runTool (files : List Path) (runner : Runner σ) (s : σ) :
    ((runTool c fix files).run runner s).value.Exits (c.failureCode fix files runner s) := by
  unfold runTool Category.failureCode
  cases c.mode with
  | batch =>
    show ((lintAll c fix files).run runner s).value.Exits (resultCode _)
    rw [lintAll_eq, Action.value_consult]
    exact exits_batchStatus _
  | perFile =>
    show (if _ then _ else _ : Status).Exits generalFailure
    split
    · exact .inl ⟨rfl, rfl⟩
    · exact .inr ⟨rfl, rfl, generalFailure_ne_zero⟩

/-- **A failure has an exit code that is not zero**, and nothing else has. -/
theorem exits_lint (files : PathSet) (runner : Runner σ) (s : σ) :
    ((lint c o files).run runner s).value.Exits (c.failureCode o.fix files.toList runner s) := by
  rw [lint_eq]
  show ((c.lintQuietly o files.toList).run runner s).value.Exits _
  unfold Category.lintQuietly
  split
  · exact .inl ⟨rfl, rfl⟩
  · exact exits_runTool c o.fix files.toList runner s

end Statuses

end LintRun
