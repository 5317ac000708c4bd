import LintRun.Machine.Flags
import LintRun.Machine.Quoting
import LintRun.Machine.Task

/-!
# Utilities

What the small programs of a machine have in common.  A utility ends with a code; a failing write
to its output ends it at once, by a signal if nobody reads any more.

Utilities are there so that the tools and version control systems of the tests can be scripts.  They
follow the utilities of an ordinary system as far as recorded runs show them, and nothing is proved
about them.
-/

namespace LintRun

/-- A step of a utility, which may end it. -/
abbrev Step := ExceptT Ending Act

/-- A utility: what it does with its task, and the code it ends with. -/
abbrev Utility := Task → Step Nat

namespace Step

/-- Something that happens in the world. -/
def act {α : Type} (a : Act α) : Step α := fun w =>
  let (x, w) := a w
  (.ok x, w)

/-- Ends the utility with a code. -/
def exit {α : Type} (code : Nat) : Step α := throw (.exited (UInt8.ofNat code))

end Step

namespace Utility

/-- A utility as a program. -/
def program (u : Utility) : Program := fun t w =>
  match u t w with
  | (.ok code, w) => (.exited (UInt8.ofNat code), w)
  | (.error e, w) => (e, w)

/-- The signal for a writer whose reader is gone. -/
def pipeEnding : Ending := (Signal.ofNat? 13).elim .clean .killed

/-- Writes to standard output. -/
def print (t : Task) (text : Chars) : Step PUnit := do
  match ← Step.act (t.write 1 text) with
  | .ok _ => pure ()
  | .error e =>
    if e = .brokenPipe && !t.ignored.contains 13 then throw pipeEnding
    else
      Step.act (t.complain ("write error: ".toList ++ e.reason.toList))
      Step.exit 1

/-- Writes a line to standard output. -/
def printLine (t : Task) (text : Chars) : Step PUnit := print t (text ++ ['\n'])

/-- Writes a message after the name of the utility. -/
def complain (t : Task) (message : Chars) : Step PUnit := Step.act (t.complain message)

/-- Writes a message about the way the utility is used, and ends it with a code. -/
def misuse {α : Type} (t : Task) (code : Nat) (message : Chars) : Step α := do
  complain t message
  Step.act (t.put 2 ("Try '".toList ++ t.title ++ " --help' for more information.\n".toList))
  Step.exit code

/-- Complains that an operand is missing. -/
def missingOperand {α : Type} (t : Task) (code : Nat) : Step α :=
  misuse t code "missing operand".toList

/-- Complains about one operand too many. -/
def extraOperand {α : Type} (t : Task) (code : Nat) (w : Chars) : Step α :=
  misuse t code ("extra operand ".toList ++ Quoting.plainly w)

/-- The flags and operands that a utility is given. -/
def flagsOf (t : Task) (code : Nat) (known : List String) (mixes : Bool := true) : Step Flags :=
  match Flags.read known mixes t.arguments with
  | .ok fs => return fs
  | .error message => misuse t code message

/-- Complains about a file. -/
def complainOf (t : Task) (what name : Chars) (e : OsError) : Step PUnit :=
  complain t (what ++ Quoting.quoted name ++ ": ".toList ++ e.reason.toList)

/-- Complains about a file by its name alone. -/
def complainNamed (t : Task) (name : Chars) (e : OsError) : Step PUnit :=
  complain t (Quoting.ifNeeded name ++ ": ".toList ++ e.reason.toList)

/-- Does something with each of some things, and tells whether all went well. -/
def forAll {α : Type} (f : α → Step Bool) : List α → Step Bool
  | [] => return true
  | x :: xs => do
    let isFine ← f x
    let areFine ← forAll f xs
    return isFine && areFine

/-- One if something went wrong. -/
def codeOf (isFine : Bool) : Nat := if isFine then 0 else 1

/-- Standard input if there are no operands. -/
def sourcesOf (names : List Chars) : List Chars := if names.isEmpty then [['-']] else names

/-- What is read from a source: a file, or standard input for a dash. -/
def content (t : Task) (name : Chars) : Step (Except OsError Chars) := Step.act (t.readSource name)

/-- Does something with the content of each source; what cannot be read is complained about. -/
def overSources (t : Task) (names : List Chars) (f : Chars → Chars → Step PUnit) : Step Bool :=
  forAll (fun name => do
    match ← content t name with
    | .ok text =>
      f name text
      return true
    | .error e =>
      complainNamed t name e
      return false) (sourcesOf names)

/-- A number as text. -/
def digits (n : Nat) : Chars := (toString n).toList

/-- Text with blanks before it, at least so wide. -/
def rightAligned (width : Nat) (text : Chars) : Chars :=
  List.replicate (width - text.length) ' ' ++ text

/-- Text with blanks after it, at least so wide. -/
def leftAligned (width : Nat) (text : Chars) : Chars :=
  text ++ List.replicate (width - text.length) ' '

/-- Lines with their ends; the last may have none. -/
def linesOf (text : Chars) : List Chars :=
  (text.foldr (fun c (current, lines) =>
    if c == '\n' then (['\n'], if current.isEmpty then lines else current :: lines)
    else (c :: current, lines)) (([] : Chars), ([] : List Chars))) |> fun (current, lines) =>
      if current.isEmpty then lines else current :: lines

/-- A line without its end. -/
def withoutEnd (line : Chars) : Chars :=
  if line.getLast? = some '\n' then line.dropLast else line

/-- The lines of a text without their ends. -/
def rowsOf (text : Chars) : List Chars := (linesOf text).map withoutEnd

/-- Whether a character stands between words. -/
def isBlankChar (c : Char) : Bool := c == ' ' || ('\t' ≤ c && c ≤ '\r')

end Utility

end LintRun
