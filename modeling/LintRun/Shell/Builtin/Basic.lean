import LintRun.Shell.State

/-!
# Commands of the interpreter

What the interpreter's own commands have in common: they come to a status and a text, they take
options letter by letter, and they write names and values so that they can be read again.
-/

namespace LintRun.Shell

/-- What a command of the interpreter comes to. -/
structure Outcome where
  status : Nat := 0
  /-- What it prints. -/
  text : Chars := []
  deriving Inhabited

/-- A command of the interpreter: what it does with its arguments. -/
abbrev Builtin := List Chars → Eval Outcome

/-- Nothing but a status. -/
def leaving (status : Nat) : Eval Outcome := return { status }

/-- A text and success. -/
def saying (text : Chars) : Eval Outcome := return { text }

/-- A text with a line end. -/
def ended (text : Chars) : Chars := text ++ ['\n']

/-- Writes a message that names no command and no line. -/
def warn (message : Chars) : Eval PUnit := do
  let _ ← writeTo 2 (ended message)

/-! ## 1. Options -/

/-- Whether a letter is one of the known options, and whether it takes a value. -/
def optionKind? : List Char → Char → Option Bool
  | [], _ => none
  | x :: more, c =>
    let takes := more.head? = some ':'
    if x = c then some takes else optionKind? (if takes then more.tail else more) c
termination_by known => known.length
decreasing_by
  simp only [List.length_cons]
  split
  · have := List.length_tail (l := more)
    omega
  · omega

/-- How long some arguments are, each counting for one more. -/
def argumentSize : List Chars → Nat
  | [] => 0
  | a :: args => a.length + 1 + argumentSize args

/-- Options letter by letter, the letters that are left of one argument first, and the arguments
after them. -/
def takeOptions (known : List Char) : Chars → List Chars →
    Eval (List (Char × Chars) × List Chars)
  | c :: cs, args => do
    let taken (value : Chars) (r : List (Char × Chars) × List Chars) :
        List (Char × Chars) × List Chars := ((c, value) :: r.1, r.2)
    match optionKind? known c with
    | none => abandon ("Illegal option -".toList ++ [c])
    | some false => return taken [] (← takeOptions known cs args)
    | some true =>
      match cs, args with
      | [], [] => abandon ("No arg for -".toList ++ c :: " option".toList)
      | [], value :: args => return taken value (← takeOptions known [] args)
      | value, args => return taken value (← takeOptions known [] args)
  | [], ['-', '-'] :: args => return ([], args)
  | [], ('-' :: c :: cs) :: args => takeOptions known (c :: cs) args
  | [], args => return ([], args)
termination_by letters args => letters.length + argumentSize args
decreasing_by
  all_goals
    simp only [argumentSize, List.length_cons, List.length_nil]
    omega

/-- The options at the start of some arguments, with their values, and the arguments after
them. -/
def optionsOf (known : String) (args : List Chars) : Eval (List (Char × Chars) × List Chars) :=
  takeOptions known.toList [] args

/-! ## 2. Quoting -/

/-- The stretches of a text between single quotes and of single quotes. -/
def quoteStretches (cs : Chars) : List Chars :=
  cs.splitBy fun a b => (a == '\'') == (b == '\'')

/-- A text as a word that stands for itself. -/
def singleQuoted (cs : Chars) : Chars :=
  let stretch (part : Chars) : Chars :=
    if part.head? = some '\'' then '"' :: part ++ ['"'] else '\'' :: part ++ ['\'']
  let parts := quoteStretches cs
  let first : Chars := if cs.isEmpty || cs.head? = some '\'' then ['\'', '\''] else []
  first ++ (parts.map stretch).flatten

/-- An assignment as it can be read again; without a value only the name. -/
def shownAssignment (start name : Chars) (value? : Option Chars) : Chars :=
  ended (start ++ name ++ match value? with
    | some v => '=' :: singleQuoted v
    | none => [])

/-- A name and the value that is to be given to it. -/
def splitAssignment (w : Chars) : Chars × Option Chars :=
  match w.dropWhile (· != '=') with
  | [] => (w, none)
  | _ :: value => (w.takeWhile (· != '='), some value)

/-- Gives up because a text is no name. -/
def abandonName {α : Type} (name : Chars) : Eval α :=
  abandon (name ++ ": bad variable name".toList)

end LintRun.Shell
