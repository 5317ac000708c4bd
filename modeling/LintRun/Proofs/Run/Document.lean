import LintRun.Proofs.Run.ExitCode
import LintRun.Run.Document

/-!
# Reading the document of a report

What a reader finds in the document by the names of its members: an entry for each outcome, in
order, with the numbers of the outcome (`Outcome.IsToldBy`), and the exit code of the run,
which is that of the first entry with one that is not zero (`exitCode_eq_find?`).

Members are looked up by name, as a reader would; that their names are different, and that a
member may be missing, is taken care of here.
-/

namespace LintRun

/-! ## 1. Members

The detail of a status and the list of problems are there only if there is something to say,
and neither hides the other. -/

/-- The value of a member of an object. -/
def Json.member? (name : String) : Json → Option Json
  | .object members => members.lookup name
  | _ => none

/-- **An entry tells of an outcome**: what a reader finds in it are the numbers and words of
the outcome. -/
structure Outcome.IsToldBy (x : Outcome) (entry : Json) : Prop where
  key : entry.member? "key" = some (.string x.key)
  status : entry.member? "status" = some (.string x.status.word)
  exitCode : entry.member? "exit_code" = some (.number x.status.exitCode)
  candidates : entry.member? "candidates" = some (.number x.candidates)
  files : entry.member? "files" = some (.number x.files.length)
  excluded : entry.member? "excluded" =
    some (.object (x.excluded.map fun (e, n) => (e.name, .number n)))
  problems : entry.member? "problems" =
    if x.status.problems.isEmpty then none
    else some (.array (x.status.problems.map problemDocument))

theorem lookup_detail (detail : Option String) (more : List (String × Json)) :
    ((detail.toList.map fun d => ("detail", Json.string d)) ++ more).lookup "problems" =
      more.lookup "problems" := by
  cases detail with
  | none => rfl
  | some d => rfl

theorem lookup_problemMembers (problems : List (Path × Problem)) :
    (problemMembers problems).lookup "problems" =
      if problems.isEmpty then none else some (.array (problems.map problemDocument)) := by
  unfold problemMembers
  split
  · rfl
  · rfl

/-- **The entry of an outcome** tells of it. -/
theorem Outcome.isToldBy_document (x : Outcome) : x.IsToldBy x.document where
  key := rfl
  status := rfl
  exitCode := rfl
  candidates := rfl
  files := rfl
  excluded := rfl
  problems := by
    rw [← lookup_problemMembers, ← lookup_detail x.status.detail?]
    rfl

/-! ## 2. Statuses -/

/-- The word of a status tells whether it is a failure. -/
theorem Status.word_eq_failed_iff {status : Status} :
    status.word = "failed" ↔ status.isFailure = true := by
  cases status with
  | clean => decide
  | skipped reason => simp [word, isFailure]
  | failed f => simp [word, isFailure]

/-- An entry has a list of problems if there are problems. -/
theorem Outcome.IsToldBy.problems_iff {x : Outcome} {entry : Json} (h : x.IsToldBy entry) :
    (∃ listed, entry.member? "problems" = some listed) ↔ x.status.problems ≠ [] := by
  rw [h.problems]
  cases hproblems : x.status.problems with
  | nil => simp
  | cons p problems => simp

/-! ## 3. The exit code

The document repeats what the report says, so whoever has the entries can tell the code. -/

/-- The exit code of a run is the first that is not zero. -/
theorem Report.exitCode_eq_find? (report : Report) :
    report.exitCode =
      ((report.outcomes.map fun x => x.status.exitCode).find? (· != 0)).getD 0 := by
  unfold exitCode firstFailure?
  rw [List.find?_map]
  show _ = ((report.outcomes.find? fun x => x.status.exitCode != 0).map _).getD 0
  cases report.outcomes.find? fun x => x.status.exitCode != 0 with
  | none => rfl
  | some x => rfl

end LintRun
