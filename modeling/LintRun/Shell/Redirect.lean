import LintRun.Shell.Builtin.Basic
import LintRun.Tree.Change

/-!
# Redirections

Where the streams of a command lead.  The targets are expanded first, one after another; then each
stream is connected in turn, so that a later redirection sees the work of an earlier one.
-/

namespace LintRun.Shell

/-- A redirection whose target is known. -/
inductive Target
  | file (stream : Nat) (mode : Mode) (path : Chars)
  /-- The stream that another one goes along with; without one it is closed. -/
  | duplicate (stream : Nat) (source? : Option Nat)
  | text (stream document : Nat)
  deriving Inhabited

/-- The stream that a redirection connects. -/
def streamOf : Target → Nat
  | .file stream _ _ => stream
  | .duplicate stream _ => stream
  | .text stream _ => stream

/-- How a reason is worded when a file cannot be opened or made. -/
def openReason (makes : Bool) (e : OsError) : Chars :=
  match e with
  | .notFound | .notDirectory => (if makes then "Directory nonexistent" else "No such file").toList
  | e => e.reason.toList

/-- How a file is opened in a mode; with the option `C` an existing file is kept. -/
def openingFor (s : State) (mode : Mode) (node? : Option Node) : Opening :=
  match mode with
  | .read => .read
  | .overwrite => .write
  | .append => .append
  | .update => .update
  | .write =>
    if !s.has 'C' then .write
    else
      match node? with
      | none | some (.file _) => .create
      | _ => .write

/-- Connects a stream to a channel. -/
def connectStream (stream channel : Nat) : Eval PUnit := modify fun s =>
  { s with streams := (stream, channel) :: s.streams.filter (·.1 != stream) }

/-- Closes a stream. -/
def closeStream (stream : Nat) : Eval PUnit := modify fun s =>
  { s with streams := s.streams.filter (·.1 != stream) }

/-- Connects a stream to a file. -/
def openStream (stream : Nat) (mode : Mode) (path : Chars) : Eval PUnit := do
  let s ← get
  let node? := (← place).stat? (.ofChars path)
  match ← withTask (·.openFile (openingFor s mode node?) path) with
  | .ok k => connectStream stream k
  | .error e =>
    let makes := mode != .read
    abandon ((if makes then "cannot create " else "cannot open ").toList ++ path ++ ": ".toList ++
      openReason makes e)

/-- Connects a stream to where another one leads. -/
def duplicateStream (stream : Nat) (source? : Option Nat) : Eval PUnit := do
  match source? with
  | none => closeStream stream
  | some source =>
    if source != stream then
      match (← get).streams.lookup source with
      | some k => connectStream stream k
      | none => abandon (State.decimal source ++ ": Bad file descriptor".toList)

/-- The stream that a word after a duplication sign means. -/
def sourceOf (word : Chars) : Eval (Option Nat) :=
  match word with
  | ['-'] => return none
  | [c] =>
    if isDecimal c then return some (numberOf 10 [c])
    else abandon "Syntax error: Bad fd number".toList
  | _ => abandon "Syntax error: Bad fd number".toList

end LintRun.Shell
