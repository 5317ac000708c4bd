import LintRun.Path.Set
import LintRun.Registry.Category
import LintRun.Run.Action
import LintRun.Run.Status

/-!
# Linting the files of a category

`lint` hands files to a category's tool, all at once or one by one, shows what the tool
wrote to standard error without the noise, and after a failure in fix mode starts the
fixer.  The fixer does not change the status.

Models `Dispatcher`: `dispatch`, `run_batch`, `run_per_file`, `classify_file_status`,
`file_problem_message`, `report_file_problem`, `run_fixer`, `build_invocation`, `report_stderr` and
`report_fixer_error`.
-/

namespace LintRun

/-- What holds for all categories of a run. -/
structure LintOptions where
  /-- Tools fix what they can, and fixers run after failures. -/
  fix : Bool := false
  /-- A line is written for each category. -/
  verbose : Bool := false
  deriving DecidableEq, Inhabited

/-- The invocation of a tool over files. -/
def Tool.invocation (t : Tool) (fix : Bool) (files : List Path) : Invocation where
  program := t.program
  arguments := t.arguments.map Utf8.encode ++ (t.modeArguments fix).map Utf8.encode ++
    files.map (·.bytes)
  environment := t.environment
  directory := t.directory.map Path.ofString
  capturesErrors := t.capturesErrors

/-- The command that is suggested for a file that needs formatting: the tool and the
arguments it is always given. -/
def Tool.formatCommand (t : Tool) (file : Path) : Invocation where
  program := t.program
  arguments := t.arguments.map Utf8.encode ++ [file.bytes]

/-- The line that is written about a file with a problem. -/
def Tool.problemLine (t : Tool) (file : Path) : Problem → String
  | .needsFormatting =>
    "Format errors in \"" ++ file.display ++ "\". Run '" ++ (t.formatCommand file).display ++
      "' or rerun with --fix to fix them."
  | p => "Error running '" ++ t.program ++ "' on \"" ++ file.display ++ "\": " ++ p.text

/-- What an exit code says about one file. -/
def Tool.problemOf (t : Tool) (code : Int) : Option Problem :=
  if code = 0 then none
  else if t.needsFormatCode = some code then some .needsFormatting
  else some (.exitCode code)

section

variable {σ : Type}

/-- One start of the tool over all files. -/
def lintAll (c : Category) (fix : Bool) (files : List Path) : Action σ Status := do
  match ← Action.start (c.tool.invocation fix files) with
  | .ok output =>
    Action.noteAll (c.noise.signal output.stderr)
    return if output.succeeded then .clean else .failed (.toolReported output.code)
  | .error e =>
    Action.note (c.key ++ ": " ++ e.message)
    return .failed (.notStarted e.message)

/-- One start of the tool over one file. -/
def lintFile (c : Category) (fix : Bool) (file : Path) : Action σ (Option Problem) := do
  let problem ←
    match ← Action.start (c.tool.invocation fix [file]) with
    | .ok output => do
      Action.noteAll (c.noise.signal output.stderr)
      pure (c.tool.problemOf output.code)
    | .error e => pure (some (.notStarted e.message))
  match problem with
  | some p => Action.note (c.tool.problemLine file p)
  | none => pure ()
  return problem

/-- One start of the tool over each file, with the problems in the order of the files. -/
def lintFiles (c : Category) (fix : Bool) : List Path → Action σ (List (Path × Problem))
  | [] => return []
  | file :: files => do
    let problem ← lintFile c fix file
    let problems ← lintFiles c fix files
    return problem.toList.map (file, ·) ++ problems

/-- The tool's part of linting. -/
def runTool (c : Category) (fix : Bool) (files : List Path) : Action σ Status :=
  match c.mode with
  | .batch => lintAll c fix files
  | .perFile => do
    let problems ← lintFiles c fix files
    return if problems.isEmpty then .clean else .failed (.files problems)

/-- One start of the fixer over all files; only that it cannot be started is shown. -/
def runFixer (c : Category) (fixer : Tool) (fix : Bool) (files : List Path) : Action σ Unit := do
  match ← Action.start (fixer.invocation fix files) with
  | .ok _ => pure ()
  | .error e => Action.note (c.key ++ " fixer: " ++ e.message)

/-- Whether a status calls for the fixer. -/
def Status.isFixable : Status → Bool
  | .failed f => f.isFixable
  | _ => false

/-- The line about a category in verbose mode. -/
def progressLine (c : Category) (files : List Path) : String :=
  if files.isEmpty then "no " ++ c.key ++ " files to lint"
  else "linting " ++ toString files.length ++ " " ++ c.key ++ " " ++
    plural files.length "file" "files"

/-- Lints the files of a category. -/
def lint (c : Category) (o : LintOptions) (files : PathSet) : Action σ Status := do
  let files := files.toList
  if o.verbose then Action.note (progressLine c files)
  if files.isEmpty then return .skipped .noFiles
  let status ← runTool c o.fix files
  match c.fixer with
  | some fixer => if o.fix && status.isFixable then runFixer c fixer o.fix files
  | none => pure ()
  return status

end

end LintRun
