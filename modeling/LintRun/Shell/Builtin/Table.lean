import LintRun.Shell.Builtin.Options
import LintRun.Shell.Builtin.Places
import LintRun.Shell.Builtin.Plain
import LintRun.Shell.Builtin.Reading
import LintRun.Shell.Builtin.Signals
import LintRun.Shell.Builtin.Variables
import LintRun.Shell.Lookup

/-!
# The table of commands

The commands of the interpreter that run nothing else, by name.
-/

namespace LintRun.Shell

/-- Ends the script, with a status if one is given. -/
def exitScript : Builtin := fun args => do
  match args with
  | [] => pure ()
  | w :: _ =>
    let n ← numberIn w
    modify fun s => { s with savedStatus := some n }
  throw .exit

/-- Ends the function or file that is being run. -/
def returnBack : Builtin := fun args => do
  match args with
  | [] =>
    modify fun s => { s with skip := .back true }
    leaving (← get).status
  | w :: _ =>
    let n ← numberIn w
    modify fun s => { s with skip := .back false }
    leaving n

/-- Passes over the rest of loops, or of their present rounds. -/
def skipRounds (skip : Skip) : Builtin := fun args => do
  let n ← match args with
    | [] => pure 1
    | w :: _ => do
      let n ← numberIn w
      if n = 0 then abandonNumber w
      pure n
  let n := min n (← get).loops
  if n > 0 then modify fun s => { s with skip, skipCount := n }
  leaving 0

/-- The command with a name that runs nothing else. -/
def builtin? (name : Chars) : Option Builtin :=
  match String.ofList name with
  | ":" | "true" => some fun _ => leaving 0
  | "false" => some fun _ => leaving 1
  | "[" => some decideBracketed
  | "alias" => some setAliases
  | "bg" | "fg" => some takeUp
  | "break" => some (skipRounds .leave)
  | "cd" | "chdir" => some changeDirectory
  | "continue" => some (skipRounds .next)
  | "echo" => some echo
  | "exit" => some exitScript
  | "export" => some declareExported
  | "getopts" => some getopts
  | "hash" => some notePrograms
  | "jobs" => some listJobs
  | "kill" => some kill
  | "local" => some declareLocal
  | "printf" => some printFormatted
  | "pwd" => some tellDirectory
  | "read" => some readInto
  | "readonly" => some declareReadOnly
  | "return" => some returnBack
  | "set" => some setAll
  | "shift" => some shiftArguments
  | "test" => some decideCondition
  | "times" => some tellTimes
  | "trap" => some trap
  | "type" => some tellMeanings
  | "ulimit" => some tellBound
  | "umask" => some setMask
  | "unalias" => some unsetAliases
  | "unset" => some unsetNames
  | "wait" => some wait
  | _ => none

end LintRun.Shell
