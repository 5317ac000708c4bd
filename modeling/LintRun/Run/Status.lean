import LintRun.Path.Basic

/-!
# How a category fared

The status of a category after its tool ran, or did not have to run, with the exit code that
it stands for and the words that describe it.

Models `CategoryStatus`, `SkipReason`, `Failure` and `FileProblem`, their exit codes, `is_fixable`,
and the texts that a report has for them (`skip_text`, `failure_text`, `problem_text`).
-/

namespace LintRun

/-- Why a category was not linted. -/
inductive SkipReason
  /-- No file was left. -/
  | noFiles
  /-- Only changed files were wanted, and nothing had changed. -/
  | noChangedFiles
  deriving DecidableEq, Inhabited

/-- What is wrong with one file. -/
inductive Problem
  | needsFormatting
  | exitCode (code : Int)
  /-- The tool could not be started. -/
  | notStarted (message : String)
  deriving DecidableEq, Inhabited

/-- Why a category failed. -/
inductive Failure
  /-- The tool ran over all files and reported a code. -/
  | toolReported (code : Int)
  /-- The tool could not be started. -/
  | notStarted (message : String)
  /-- Some files have problems. -/
  | files (problems : List (Path × Problem))
  deriving DecidableEq, Inhabited

/-- How a category fared. -/
inductive Status
  | clean
  | skipped (reason : SkipReason)
  | failed (f : Failure)
  deriving DecidableEq, Inhabited

/-- One thing or several. -/
def plural (n : Nat) (one many : String) : String := if n = 1 then one else many

/-- The exit code of a failure that has none of its own. -/
def generalFailure : Int := 1

/-- Whether a problem is a finding of the tool. -/
def Problem.isFinding : Problem → Bool
  | .notStarted _ => false
  | _ => true

/-- A problem in a report. -/
def Problem.text : Problem → String
  | .needsFormatting => "needs formatting"
  | .exitCode code => "exit code " ++ toString code
  | .notStarted message => message

namespace Failure

/-- The exit code that a failure stands for. -/
def exitCode : Failure → Int
  | .toolReported code => code
  | .notStarted _ => generalFailure
  | .files _ => generalFailure

/-- Whether the tool ran and found something that a fixer may fix. -/
def isFixable : Failure → Bool
  | .toolReported _ => true
  | .notStarted _ => false
  | .files problems => problems.any fun (_, p) => p.isFinding

/-- A failure in a report. -/
def text : Failure → String
  | .toolReported code => "tool exited with status " ++ toString code
  | .notStarted message => message
  | .files problems =>
    toString problems.length ++ " " ++ plural problems.length "file" "files" ++ " failed"

end Failure

/-- A skipped category in a report. -/
def SkipReason.text : SkipReason → String
  | .noFiles => "no files to lint"
  | .noChangedFiles => "no changed files"

namespace Status

/-- The exit code that a status stands for. -/
def exitCode : Status → Int
  | .failed f => f.exitCode
  | _ => 0

/-- Whether a category failed. -/
def isFailure : Status → Bool
  | .failed _ => true
  | _ => false

end Status

end LintRun
