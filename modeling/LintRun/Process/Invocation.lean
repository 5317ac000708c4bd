import LintRun.Path.Basic
import LintRun.Registry.Bindings
import LintRun.Text.Blank

/-!
# Invocations

Everything that is said about a process before it is started.  Arguments are byte strings,
so file names that are not text reach the process unchanged.

Models `Invocation` with its builder functions and the way it is displayed.
-/

namespace LintRun

/-- A process to be started. -/
structure Invocation where
  program : String
  arguments : List (List UInt8) := []
  /-- Values for variables that the process would not inherit. -/
  environment : Bindings := .empty
  /-- The working directory, if it is not the inherited one. -/
  directory : Option Path := none
  /-- Whether standard output is handed back instead of being shared. -/
  capturesOutput : Bool := false
  /-- Whether standard error is handed back instead of being shared. -/
  capturesErrors : Bool := false
  deriving DecidableEq, Inhabited

namespace Invocation

/-- The invocation with more arguments at the end. -/
def withArguments (i : Invocation) (arguments : List (List UInt8)) : Invocation :=
  { i with arguments := i.arguments ++ arguments }

/-- The invocation with more variables; a later value of a variable counts. -/
def withEnvironment (i : Invocation) (b : Bindings) : Invocation :=
  { i with environment := i.environment.insertAll b.toList }

/-- One argument as it is shown: in quotes if it holds a blank; nothing is escaped. -/
def displayArgument (bytes : List UInt8) : String :=
  let text := Utf8.decodeLossy bytes
  if text.toList.any isBlank then "\"" ++ text ++ "\"" else text

/-- The command as it is shown, program and arguments with one space between them. -/
def display (i : Invocation) : String :=
  i.arguments.foldl (fun text a => text ++ " " ++ displayArgument a) i.program

end Invocation

end LintRun
