import LintRun.Run.Status
import LintRun.Screening

/-!
# Reports

The outcome of each category, in the order in which they ran.  The exit code of a run is
that of the first category whose code is not zero.

Models `CategoryOutcome`, `RunReport` with `exit_code`, `first_failure` and `failures`, and
`summary_lines`.
-/

namespace LintRun

/-- What came of one category. -/
structure Outcome where
  key : String
  /-- How many files there were under the roots. -/
  candidates : Nat
  /-- The files that were handed to the tool. -/
  files : List Path
  /-- How many files each stage of screening removed. -/
  excluded : List (Exclusion × Nat)
  status : Status
  deriving DecidableEq, Inhabited

/-- What came of a run. -/
structure Report where
  outcomes : List Outcome := []
  deriving DecidableEq, Inhabited

namespace Report

/-- The first outcome with an exit code that is not zero. -/
def firstFailure? (r : Report) : Option Outcome :=
  r.outcomes.find? fun o => o.status.exitCode != 0

/-- The exit code of a run. -/
def exitCode (r : Report) : Int :=
  match r.firstFailure? with
  | some o => o.status.exitCode
  | none => 0

/-- The outcomes of categories that failed. -/
def failures (r : Report) : List Outcome := r.outcomes.filter fun o => o.status.isFailure

end Report

/-! ## Summary -/

/-- How a category fared, in a summary. -/
def Status.summary : Status → String
  | .clean => "clean"
  | .skipped reason => "skipped (" ++ reason.text ++ ")"
  | .failed f => "FAILED (" ++ f.text ++ ")"

/-- The line of a category in a summary. -/
def Outcome.summary (o : Outcome) : String :=
  o.key ++ ": " ++ toString o.files.length ++ " of " ++ toString o.candidates ++
    " files linted, " ++ o.status.summary

/-- One line for each category. -/
def Report.summary (r : Report) : List String := r.outcomes.map Outcome.summary

end LintRun
