import LintRun.Machine.Task

/-!
# Files that can be started

What the content of a file says about how it is started: as a program of the machine, or by
another program that its first line names.

* `Executable.ofContent` reads the content;
* `Executable.resolve` follows interpreters until it comes to a program of the machine.

Models what the operating system does with a file that is to be started, as far as the tests use it.
-/

namespace LintRun

/-- What a file is as a program. -/
inductive Executable
  | native (name : Chars)
  | script (interpreter : Chars) (argument? : Option Chars)
  | none
  deriving DecidableEq, Inhabited

namespace Executable

/-- What the file of a native program starts with; its name follows. -/
def nativeMark : List UInt8 := [0x7F, 69, 76, 70]

/-- The file of a native program. -/
def nativeFile (name : String) : File := .program (nativeMark ++ Utf8.encode name)

/-! ## 1. First lines -/

/-- Blanks between the words of a first line. -/
def isGap (c : Char) : Bool := c == ' ' || c == '\t'

/-- Ends a text in memory. -/
def endMark : Char := Char.ofNat 0

/-- How many characters of a file are looked at. -/
def headLength : Nat := 256

/-- A text up to the first mark of its end. -/
def upToEnd (cs : Chars) : Chars := cs.takeWhile (· != endMark)

/-- A text without blanks at its end. -/
def trimmedEnd (cs : Chars) : Chars := (cs.reverse.dropWhile isGap).reverse

/-- The interpreter that a first line names after its mark, with the one argument for it. -/
def ofFirstLine (line : Chars) : Executable :=
  let line := line.dropWhile isGap
  let isWithin (c : Char) : Bool := !isGap c && c != endMark
  if line.isEmpty then .none
  else
    let rest := line.dropWhile isWithin
    .script (line.takeWhile isWithin) <|
      if rest.head?.any isGap then some (upToEnd (rest.dropWhile isGap)) else Option.none

/-- What follows the mark of a script when the line does not end within the part that is looked
at: it is as if that part were one line, but a name that might go on is not taken. -/
def ofLongLine (rest : Chars) : Executable :=
  let room := headLength - 2
  let part := rest.take room ++ List.replicate (room - rest.length) endMark
  let name := part.dropWhile isGap
  if name.any fun c => isGap c || c == endMark then
    ofFirstLine (trimmedEnd (part.take (room - 1)))
  else .none

/-- What a content is as a program. -/
def ofContent (content : List UInt8) : Executable :=
  if nativeMark.isPrefixOf content then .native (ofOctets (content.drop nativeMark.length))
  else
    match ofOctets (content.take headLength) with
    | '#' :: '!' :: rest =>
      if rest.contains '\n' then ofFirstLine (trimmedEnd (rest.takeWhile (· != '\n')))
      else ofLongLine rest
    | _ => .none

/-! ## 2. Interpreters -/

/-- How many scripts may be interpreters of each other. -/
def scriptLimit : Nat := 5

/-- The native program by which a path is started, with the task it gets: an interpreter is
given its argument and the path of the script before the arguments of the script. -/
def resolve (tree : Tree) : Nat → Chars → Task → Except OsError (Chars × Task)
  | scripts, path, task => do
    let place ← tree.locate true (.ofChars path)
    match place.node with
    | .file f =>
      if !f.executable || World.deviceNames.contains place.names then throw .permissionDenied
      match ofContent f.content with
      | .native name => return (name, task)
      | .script interpreter argument? =>
        match scripts with
        | 0 => throw .tooManyLinks
        | scripts + 1 =>
          resolve tree scripts interpreter { task with
            title := interpreter
            arguments := argument?.toList ++ path :: task.arguments }
      | .none => throw .badExecutable
    | _ => throw .permissionDenied

end Executable

end LintRun
