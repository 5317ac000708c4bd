import LintRun.Text.Octets

/-!
# Flags of programs

How the programs of a machine read their arguments: letters after a dash, several at once; words
after two dashes, which may be cut short as long as they stay unique; values in the same argument
or in the next one.

* `DeclaredFlag.ofText` reads the way in which a flag is declared: `n,lines=` has a letter, a word
  and a value, `w[` a value that may be missing;
* `Flags.read` tells the flags and the operands of some arguments, or what is wrong with them.
-/

namespace LintRun

/-- Whether a flag has a value. -/
inductive Takes
  | nothing
  | value
  | perhaps
  deriving DecidableEq, Inhabited

/-- A flag: its letter, its word and its value.  It is known by its letter if it has one. -/
structure DeclaredFlag where
  letter? : Option Char := none
  word : Chars := []
  takes : Takes := .nothing
  deriving DecidableEq, Inhabited

namespace DeclaredFlag

/-- What a flag is known by. -/
def key (f : DeclaredFlag) : Chars :=
  match f.letter? with
  | some c => [c]
  | none => f.word

/-- The flag that a declaration means. -/
def ofText (text : String) : DeclaredFlag :=
  let body := text.toList.filter fun c => c != '=' && c != '['
  let takes : Takes := if text.toList.contains '=' then .value
    else if text.toList.contains '[' then .perhaps else .nothing
  let before := body.takeWhile (· != ',')
  if before.length = 1 then { letter? := before.head?, word := body.drop 2, takes }
  else { word := body, takes }

end DeclaredFlag

/-- The flags and operands among some arguments. -/
structure Flags where
  given : List (Chars × Chars) := []
  operands : List Chars := []
  deriving Inhabited

namespace Flags

/-- Whether a flag is given. -/
def has (fs : Flags) (key : String) : Bool := fs.given.any (·.1 == key.toList)

/-- The last value of a flag. -/
def value? (fs : Flags) (key : String) : Option Chars :=
  (fs.given.reverse.find? (·.1 == key.toList)).map (·.2)

/-- The values of a flag. -/
def values (fs : Flags) (key : String) : List Chars :=
  (fs.given.filter (·.1 == key.toList)).map (·.2)

/-- The last of some flags that is given. -/
def last? (fs : Flags) (keys : List String) : Option String :=
  keys.find? fun k =>
    (fs.given.reverse.find? fun g => keys.any (·.toList == g.1)).map (·.1) == some k.toList

/-- The flags with one more in front. -/
def add (key value : Chars) (fs : Flags) : Flags := { fs with given := (key, value) :: fs.given }

/-- The operands with one more in front. -/
def addOperand (w : Chars) (fs : Flags) : Flags := { fs with operands := w :: fs.operands }

/-- A word after two dashes as it is quoted in messages. -/
def quotedWord (word : Chars) : Chars := "'--".toList ++ word ++ ['\'']

/-- The flag that a word means, cut short or not. -/
def find (known : List DeclaredFlag) (word : Chars) : Except Chars DeclaredFlag :=
  match known.find? fun f => !f.word.isEmpty && f.word == word with
  | some f => .ok f
  | none =>
    match known.filter fun f => !f.word.isEmpty && word.isPrefixOf f.word with
    | [] => .error ("unrecognized option ".toList ++ quotedWord word)
    | f :: more =>
      if more.all fun g => g.key == f.key && g.takes == f.takes then .ok f
      else
        .error ("option ".toList ++ quotedWord word ++ " is ambiguous; possibilities:".toList ++
          (f :: more).flatMap fun g => ' ' :: quotedWord g.word)

/-- How long some arguments are, each counting for one more. -/
def size : List Chars → Nat
  | [] => 0
  | a :: args => a.length + 1 + size args

/-- Reads the letters that are left of one argument and the arguments after it.  Operands may
stand between flags unless they end them. -/
def take (known : List DeclaredFlag) (mixes : Bool) : Chars → List Chars → Except Chars Flags
  | c :: cs, args =>
    match known.find? fun f => f.letter? == some c with
    | none => .error ("invalid option -- '".toList ++ [c, '\''])
    | some f =>
      match f.takes, cs, args with
      | .nothing, cs, args => (take known mixes cs args).map (add f.key [])
      | .perhaps, value, args => (take known mixes [] args).map (add f.key value)
      | .value, [], value :: args => (take known mixes [] args).map (add f.key value)
      | .value, [], [] => .error ("option requires an argument -- '".toList ++ [c, '\''])
      | .value, value, args => (take known mixes [] args).map (add f.key value)
  | [], [] => .ok {}
  | [], ['-', '-'] :: args => .ok { operands := args }
  | [], ('-' :: '-' :: word) :: args =>
    let name := word.takeWhile (· != '=')
    match find known name, word.drop name.length, args with
    | .error e, _, _ => .error e
    | .ok f, '=' :: value, args =>
      if f.takes = .nothing then
        .error ("option ".toList ++ quotedWord f.word ++ " doesn't allow an argument".toList)
      else (take known mixes [] args).map (add f.key value)
    | .ok f, _, args =>
      if f.takes != .value then (take known mixes [] args).map (add f.key [])
      else
        match args with
        | value :: args => (take known mixes [] args).map (add f.key value)
        | [] => .error ("option ".toList ++ quotedWord f.word ++ " requires an argument".toList)
  | [], ('-' :: c :: cs) :: args => take known mixes (c :: cs) args
  | [], w :: args =>
    if mixes then (take known mixes [] args).map (addOperand w) else .ok { operands := w :: args }
termination_by letters args => letters.length + size args
decreasing_by
  all_goals
    simp only [size, List.length_cons, List.length_nil]
    omega

/-- The flags and operands of some arguments. -/
def read (known : List String) (mixes : Bool) (args : List Chars) : Except Chars Flags :=
  take (known.map DeclaredFlag.ofText) mixes [] args

end Flags

end LintRun
