import LintRun.Process.Invocation
import LintRun.Tree.Locate

/-!
# Runners

A runner answers invocations, one after another: with what the process reported when it was
done, or with the reason why it could not be started.  `Script` is a runner that answers
by rules.

Models `ProcessRunner`, `ProcessOutput` and `ToolInvocationError`, and `RecordingRunner` as
`Script`.  The runner that really starts processes is a parameter wherever something is proved;
`Machine.runner` is one that is written out.
-/

namespace LintRun

/-- What a finished process reported. -/
structure Output where
  /-- The exit code, or 128 plus the signal that ended the process. -/
  code : Int := 0
  /-- Captured standard output. -/
  stdout : String := ""
  /-- Captured standard error. -/
  stderr : String := ""
  deriving DecidableEq, Inhabited

/-- Whether a process reported success. -/
def Output.succeeded (o : Output) : Bool := o.code == 0

/-- Why a process could not be started. -/
inductive StartError
  | toolNotFound (program : String)
  | failed (program cause : String)
  deriving DecidableEq, Inhabited

/-- The wording of an error. -/
def StartError.message : StartError → String
  | .toolNotFound program => "Tool not found: " ++ program
  | .failed program cause => "Failed to run " ++ program ++ ": " ++ cause

/-- What an error goes back to. -/
def StartError.causes : StartError → List String
  | .toolNotFound _ => []
  | .failed _ cause => [cause]

/-- What was written to standard output and standard error. -/
structure Streams where
  out : List UInt8 := []
  err : List UInt8 := []
  deriving DecidableEq, Inhabited

/-- What the start of a process leads to. -/
structure Reply where
  result : Except StartError Output
  /-- What the process wrote to streams that it shares with the program. -/
  shared : Streams := {}
  deriving Inhabited

/-- Something that starts processes, with a state of type `σ`. -/
structure Runner (σ : Type) where
  answer : Invocation → σ → Reply × σ
  /-- The files that there are in a state. -/
  files : σ → Tree

/-! ## Scripts -/

/-- A rule of a script. -/
structure Rule where
  /-- The program it is for, if only one. -/
  program : Option String := none
  /-- A text that some argument has to contain. -/
  argument : Option String := none
  /-- How often it still answers, if not forever. -/
  times : Option Nat := none
  /-- Whether the program is not found. -/
  notFound : Bool := false
  /-- Why the program cannot be started. -/
  fault : Option String := none
  output : Output := {}
  deriving Inhabited

/-- Whether a text contains another. -/
def containsText (part text : List Char) : Bool :=
  match text with
  | [] => part.isEmpty
  | c :: cs => part.isPrefixOf (c :: cs) || containsText part cs

namespace Rule

/-- Whether a rule answers an invocation. -/
def applies (r : Rule) (i : Invocation) : Bool :=
  r.program.all (· == i.program) &&
  r.argument.all (fun part =>
    i.arguments.any fun a => containsText part.toList (Utf8.decodeLossy a).toList) &&
  r.times.all (0 < ·)

/-- The answer of a rule. -/
def result (r : Rule) (i : Invocation) : Except StartError Output :=
  if r.notFound then .error (.toolNotFound i.program)
  else
    match r.fault with
    | some cause => .error (.failed i.program cause)
    | none => .ok r.output

/-- A rule that has answered once more. -/
def spent (r : Rule) : Rule := { r with times := r.times.map (· - 1) }

end Rule

/-- Rules in order; the first that applies answers, and without one all is well. -/
abbrev Script := List Rule

/-- The answer of a script and what is left of it. -/
def Script.answer (i : Invocation) : Script → Except StartError Output × Script
  | [] => (.ok {}, [])
  | r :: rs =>
    if r.applies i then (r.result i, r.spent :: rs)
    else
      let (result, rest) := Script.answer i rs
      (result, r :: rest)

/-- A runner that answers by rules and starts nothing, so that the files stay as they are. -/
def scripted (t : Tree) : Runner Script where
  answer i script :=
    let (result, rest) := script.answer i
    ({ result }, rest)
  files _ := t

/-- The script in which programs exit with given codes. -/
def Script.ofCodes (codes : List (String × Int)) : Script :=
  codes.map fun (program, code) => { program := some program, output := { code } }

end LintRun
