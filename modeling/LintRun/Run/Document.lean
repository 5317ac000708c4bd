import LintRun.Json.Basic
import LintRun.Run.Report

/-!
# The report as a document

The JSON document of a report: the exit code of the run and one object for each category.
What there is to say about a status is left out where there is nothing to say.

Models `JsonRunReport`, `JsonCategory`, `JsonFileProblem` and `to_json`.
-/

namespace LintRun

/-- The word for a status. -/
def Status.word : Status → String
  | .clean => "clean"
  | .skipped _ => "skipped"
  | .failed _ => "failed"

/-- More about a status, if there is more. -/
def Status.detail? : Status → Option String
  | .clean => none
  | .skipped reason => some reason.text
  | .failed f => some f.text

/-- The files with problems. -/
def Status.problems : Status → List (Path × Problem)
  | .failed (.files problems) => problems
  | _ => []

/-- One file with its problem. -/
def problemDocument (p : Path × Problem) : Json :=
  .object [("file", .string p.1.display), ("problem", .string p.2.text)]

/-- The members about problems, none if there are no problems. -/
def problemMembers (problems : List (Path × Problem)) : List (String × Json) :=
  if problems.isEmpty then [] else [("problems", .array (problems.map problemDocument))]

/-- One category. -/
def Outcome.document (o : Outcome) : Json := .object <|
  [("key", .string o.key),
    ("status", .string o.status.word),
    ("exit_code", .number o.status.exitCode),
    ("candidates", .number o.candidates),
    ("files", .number o.files.length),
    ("excluded", .object (o.excluded.map fun (e, n) => (e.name, .number n)))] ++
  (o.status.detail?.toList.map fun d => ("detail", .string d)) ++
  problemMembers o.status.problems

/-- The document of a report. -/
def Report.document (r : Report) : Json :=
  .object [("exit_code", .number r.exitCode), ("categories", .array (r.outcomes.map (·.document)))]

/-- The document as text. -/
def Report.json (r : Report) : String := r.document.render

end LintRun
