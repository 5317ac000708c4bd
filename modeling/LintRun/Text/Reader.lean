/-
# Readers

A reader takes something off the front of a text, or fails.  `p <|> q` tries `q` where `p`
started; `many p` reads as long as `p` succeeds and takes something, so it always ends.
-/
namespace LintRun

/-- A reader of `α` from the front of a list of characters. -/
abbrev Reader (α : Type) := StateT (List Char) Option α

namespace Reader

/-- The characters not yet read. -/
def rest : Reader (List Char) := fun cs => some (cs, cs)

/-- The next character, not taken. -/
def peek : Reader (Option Char) := fun cs => some (cs.head?, cs)

/-- Takes one character that passes a test. -/
def satisfy (p : Char → Bool) : Reader Char
  | c :: cs => if p c then some (c, cs) else none
  | [] => none

/-- Takes one given character. -/
def char (c : Char) : Reader Unit := do let _ ← satisfy (· == c)

/-- Takes a given text. -/
def token (s : String) : Reader Unit := fun cs =>
  if s.toList.isPrefixOf cs then some ((), cs.drop s.length) else none

/-- Takes the longest stretch of characters that pass a test. -/
def takeWhile (p : Char → Bool) : Reader (List Char) := fun cs =>
  some (cs.takeWhile p, cs.dropWhile p)

/-- Takes a stretch of at least one character. -/
def takeWhile1 (p : Char → Bool) : Reader (List Char) := do
  let cs ← takeWhile p
  if cs.isEmpty then failure else pure cs

/-- Takes exactly `n` characters that pass a test. -/
def takeExactly (p : Char → Bool) : Nat → Reader (List Char)
  | 0 => pure []
  | n + 1 => do
    let c ← satisfy p
    let cs ← takeExactly p n
    pure (c :: cs)

/-- Succeeds at the end of the text only. -/
def atEnd : Reader Unit := fun cs => if cs.isEmpty then some ((), cs) else none

/-- At most `n` items. -/
def upTo {α : Type} (p : Reader α) : Nat → Reader (List α)
  | 0 => pure []
  | n + 1 => fun cs =>
    match p cs with
    | none => some ([], cs)
    | some (a, cs') =>
      if cs'.length < cs.length then
        match upTo p n cs' with
        | some (as, cs'') => some (a :: as, cs'')
        | none => none
      else some ([a], cs')

/-- As many items as there are. -/
def many {α : Type} (p : Reader α) : Reader (List α) := fun cs => upTo p cs.length cs

/-- At least one item, a separator between each two. -/
def sepBy1 {α : Type} (p : Reader α) (separator : Reader Unit) : Reader (List α) := do
  let a ← p
  let as ← many (do separator; p)
  pure (a :: as)

/-- Items with a separator between each two, or none. -/
def sepBy {α : Type} (p : Reader α) (separator : Reader Unit) : Reader (List α) :=
  sepBy1 p separator <|> pure []

/-- What a reader makes of a whole text. -/
def run {α : Type} (p : Reader α) (text : List Char) : Option α :=
  match p text with
  | some (a, []) => some a
  | _ => none

end Reader

end LintRun
