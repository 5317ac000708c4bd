import LintRun.Shell.Builtin.Basic
import LintRun.Shell.Condition
import LintRun.Shell.Printed

/-!
# Plain commands

The commands that only print something or decide something.
-/

namespace LintRun.Shell

/-- Prints its arguments with spaces between them; escapes in them are read, and one of them ends
the output. -/
def echoed : List Chars → Chars × Bool
  | [] => ([], false)
  | w :: ws =>
    let (text, stops) := Printed.unescaped w
    if stops then (text, true)
    else if ws.isEmpty then (text, false)
    else
      let (more, stops) := echoed ws
      (text ++ ' ' :: more, stops)

/-- Prints its arguments in a line. -/
def echo : Builtin := fun args => do
  let (hasEnd, words) := match args with
    | ['-', 'n'] :: ws => (false, ws)
    | ws => (true, ws)
  let (text, stops) := echoed words
  saying (if stops || !hasEnd then text else ended text)

/-- Prints its arguments by a format. -/
def printFormatted : Builtin := fun args => do
  let (_, words) ← optionsOf "" args
  match words with
  | [] => abandon "usage: printf format [arg ...]".toList
  | format :: more =>
    let (text, complaints, fault?) := Printed.printed format more
    for message in complaints do complain message
    match fault? with
    | some message =>
      let _ ← writeTo 1 text
      abandon message
    | none => return { status := if complaints.isEmpty then 0 else 1, text }

/-- Decides whether a condition holds. -/
def decideCondition (words : List Chars) : Eval Outcome := do
  match Condition.holds (← place) words with
  | .ok true => leaving 0
  | .ok false => leaving 1
  | .error message => abandon message

/-- Decides whether a condition in brackets holds. -/
def decideBracketed : Builtin := fun args => do
  if args.getLast? = some [']'] then decideCondition args.dropLast
  else abandon "missing ]".toList

/-- Tells the time that was used. -/
def tellTimes : Builtin := fun _ =>
  let line := "0m0.000000s 0m0.000000s\n".toList
  saying (line ++ line)

/-- The bounds on what processes use, by their letters. -/
def bounds : List (Char × String) := [('c', "0"), ('s', "8192"), ('n', "1048576")]

/-- Tells a bound on what processes use; to set one changes nothing. -/
def tellBound : Builtin := fun args => do
  let (options, words) ← optionsOf "HSatfdscmlpnvwr" args
  let kinds := (options.map (·.1)).filter fun c => c != 'H' && c != 'S'
  if words.isEmpty then
    saying (ended ((bounds.lookup (kinds.getLast?.getD 'f')).getD "unlimited").toList)
  else leaving 0

end LintRun.Shell
