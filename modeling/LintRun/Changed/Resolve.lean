import LintRun.Changed.Listing
import LintRun.Registry.File
import LintRun.Run.Action
import LintRun.Text.Blank

/-!
# Finding the changed files

The command that lists changed files runs in the source root.  Without its listing there
is no set of changed files: that it cannot be started or fails is an error.

Models `ChangedFileResolver`, its `resolve`, and `VcsError`.
-/

namespace LintRun

/-- Why the changed files are not known. -/
inductive ChangeError
  | notStarted (command : String) (cause : StartError)
  | failed (command : String) (code : Int) (stderr : String)

/-- The wording of an error. -/
def ChangeError.message : ChangeError → String
  | .notStarted command cause =>
    "Failed to find changed files: could not run '" ++ command ++ "': " ++ cause.message
  | .failed command code stderr =>
    "Failed to find changed files: '" ++ command ++ "' exited with status " ++ toString code ++
      ": " ++ stderr

/-- What an error goes back to, nearest cause first. -/
def ChangeError.causes : ChangeError → List String
  | .notStarted _ cause => cause.message :: cause.causes
  | .failed .. => []

/-- The invocation that lists changed files. -/
def ChangeCommand.invocation (c : ChangeCommand) (root : Path) : Invocation where
  program := c.program
  arguments := c.arguments.map Utf8.encode
  directory := some root
  capturesOutput := true
  capturesErrors := true

/-- The changed files under a source root. -/
def ChangeCommand.resolve {σ : Type} (c : ChangeCommand) (root : Path) :
    Action σ (Except ChangeError PathSet) := do
  let i := c.invocation root
  match ← Action.start i with
  | .error e => return .error (.notStarted i.display e)
  | .ok output =>
    if output.succeeded then return .ok (changedPaths root output.stdout)
    else return .error (.failed i.display output.code (trimBlanks output.stderr))

end LintRun
