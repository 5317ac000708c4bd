import LintRun.Text.Octets

/-!
# Shell scripts

What a script for the command interpreter says.  Texts in it are lists of characters that
stand for single bytes.

The interpreter is a program of the machine that the program is tried on: the tools of its tests are
scripts.  No result depends on what a script means.
-/

namespace LintRun.Shell

/-- How a file is opened for a stream. -/
inductive Mode
  | read
  | write
  /-- Also over a file that is to be kept. -/
  | overwrite
  | append
  | update
  deriving DecidableEq, Inhabited

mutual

/-- A stretch of a word. -/
inductive Piece
  | literal (isQuoted : Bool) (text : Chars)
  | parameter (isQuoted : Bool) (name : Chars) (change : Change)
  | arithmetic (isQuoted : Bool) (expression : List Piece)
  | output (isQuoted : Bool) (body : Option Command)

/-- What is made of the value of a parameter. -/
inductive Change
  | none
  | length
  /-- Another word when there is no value. -/
  | orElse (orEmpty : Bool) (word : List Piece)
  /-- The same, and the word becomes the value. -/
  | orAssign (orEmpty : Bool) (word : List Piece)
  /-- A fault when there is no value. -/
  | orFail (orEmpty : Bool) (word : List Piece)
  /-- Another word when there is a value. -/
  | instead (orEmpty : Bool) (word : List Piece)
  /-- The value without a matching start. -/
  | withoutStart (longest : Bool) (glob : List Piece)
  /-- The value without a matching end. -/
  | withoutEnd (longest : Bool) (glob : List Piece)
  /-- Nothing that can be done. -/
  | invalid

/-- What a stream of a command is connected to. -/
inductive Redirection
  | file (stream : Nat) (mode : Mode) (target : List Piece)
  | duplicate (stream : Nat) (source : List Piece)
  /-- A text that stands below the command, by its number. -/
  | here (stream document : Nat)

/-- What is run. -/
inductive Command
  | simple (line : Nat) (assignments words : List (List Piece)) (redirections : List Redirection)
  | pipeline (stages : List Command)
  | negated (body : Command)
  | background (line : Nat) (body : Command) (redirections : List Redirection)
  | sequence (first second : Command)
  | both (first second : Command)
  | either (first second : Command)
  | conditional (test body : Command) (otherwise : Option Command)
  | loop (stopsOn : Bool) (test body : Command)
  | each (line : Nat) (name : Chars) (words : List (List Piece)) (body : Command)
  | choice (line : Nat) (subject : List Piece)
      (branches : List (List (List Piece) × Option Command))
  | subshell (line : Nat) (body : Command) (redirections : List Redirection)
  | redirected (line : Nat) (body : Command) (redirections : List Redirection)
  | function (line : Nat) (name : Chars) (body : Command)

end

instance : Inhabited Command := ⟨.simple 1 [] [] []⟩
instance : Inhabited Piece := ⟨.literal false []⟩
instance : Inhabited Redirection := ⟨.here 0 0⟩

/-- A word before it is expanded. -/
abbrev Word := List Piece

/-- What is read at once: a command that ends with its line, and the texts that stand below
it. -/
structure Line where
  command : Option Command
  documents : Array Word
  deriving Inhabited

end LintRun.Shell
