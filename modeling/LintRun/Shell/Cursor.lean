import LintRun.Shell.Basic
import LintRun.Text.Digits

/-!
# Reading scripts

The state of a reader of scripts, its faults, and the kinds of tokens.  A token that was looked
at too early is put back; the texts that stand below a line are read when the line ends.
-/

namespace LintRun.Shell

/-! ## 1. Tokens -/

/-- The kinds of tokens. -/
inductive Token
  | endOfFile
  | newline
  | semicolon
  | ampersand
  | andIf
  | orIf
  | bar
  | openBracket
  | closeBracket
  | endOfCase
  | word
  | redirection
  | bang
  | caseWord
  | doWord
  | doneWord
  | elifWord
  | elseWord
  | esacWord
  | fiWord
  | forWord
  | ifWord
  | inWord
  | thenWord
  | untilWord
  | whileWord
  | openBrace
  | closeBrace
  deriving DecidableEq, Inhabited

namespace Token

/-- The words that are tokens of their own where a command may start. -/
def reservedWords : List (String × Token) := [
  ("!", .bang),
  ("case", .caseWord),
  ("do", .doWord),
  ("done", .doneWord),
  ("elif", .elifWord),
  ("else", .elseWord),
  ("esac", .esacWord),
  ("fi", .fiWord),
  ("for", .forWord),
  ("if", .ifWord),
  ("in", .inWord),
  ("then", .thenWord),
  ("until", .untilWord),
  ("while", .whileWord),
  ("\x7b", .openBrace),
  ("\x7d", .closeBrace)]

/-- How a token is called in messages. -/
def shown (t : Token) : String :=
  let sign (s : String) : String := "\"" ++ s ++ "\""
  match t with
  | .endOfFile => "end of file"
  | .newline => "newline"
  | .semicolon => sign ";"
  | .ampersand => sign "&"
  | .andIf => sign "&&"
  | .orIf => sign "||"
  | .bar => sign "|"
  | .openBracket => sign "("
  | .closeBracket => sign ")"
  | .endOfCase => sign ";;"
  | .word => "word"
  | .redirection => "redirection"
  | t => sign (((reservedWords.find? fun r => r.2 == t).map (·.1)).getD "")

/-- Whether a token ends a list of commands. -/
def endsList : Token → Bool
  | .endOfFile | .closeBracket | .endOfCase | .doWord | .doneWord | .elifWord | .elseWord
  | .esacWord | .fiWord | .thenWord | .closeBrace => true
  | _ => false

end Token

/-! ## 2. Words -/

/-- Whether a name may start with a character. -/
def isNameStart (c : Char) : Bool := isAsciiLetter c || c == '_'

/-- Whether a name may go on with a character. -/
def isNameChar (c : Char) : Bool := isNameStart c || isDecimal c

/-- Whether a text is a name. -/
def isName : Chars → Bool
  | [] => false
  | c :: cs => isNameStart c && cs.all isNameChar

/-- The parameters named by a sign. -/
def isSign (c : Char) : Bool :=
  c == '@' || c == '*' || c == '#' || c == '?' || c == '-' || c == '$' || c == '!'

/-- The text of a word without anything to expand and without quotes. -/
def Word.plainText? : Word → Option Chars
  | [] => some []
  | [.literal false text] => some text
  | _ => none

/-- The name that a word assigns to, the word after the sign. -/
def Word.assignment? : Word → Option (Chars × Word)
  | .literal false text :: more =>
    let name := text.takeWhile isNameChar
    match text.dropWhile isNameChar with
    | '=' :: value => if isName name then some (name, .literal false value :: more) else none
    | _ => none
  | _ => none

/-- The texts of a word one after another, quotes taken away and nothing expanded. -/
def Word.bareText (w : Word) : Chars :=
  w.flatMap fun
    | .literal _ text => text
    | _ => []

/-! ## 3. The state of a reader -/

/-- What is wrong with a script, and in which line. -/
structure Fault where
  line : Nat
  message : String
  deriving Inhabited

/-- What a word is looked at as. -/
structure Checks where
  /-- Whether line ends before it are passed over. -/
  newlines : Bool := false
  keywords : Bool := false
  aliases : Bool := false
  /-- Whether it is the mark that ends a text below, in which nothing is expanded. -/
  isMark : Bool := false
  deriving Inhabited

/-- Checks of two kinds together. -/
def Checks.or (a b : Checks) : Checks where
  newlines := a.newlines || b.newlines
  keywords := a.keywords || b.keywords
  aliases := a.aliases || b.aliases
  isMark := a.isMark || b.isMark

/-- A text below a line that is still to be read. -/
structure Awaited where
  document : Nat
  mark : Chars
  /-- Whether tabs before its lines are dropped. -/
  strips : Bool
  /-- Whether it is taken as it is. -/
  isQuoted : Bool
  deriving Inhabited

/-- A redirection whose target is still to be read. -/
inductive Opened
  | file (mode : Mode)
  | duplicate
  | here (strips : Bool)
  deriving Inhabited

/-- The state of a reader of scripts. -/
structure Cursor where
  rest : Chars
  line : Nat := 1
  /-- Whether the last token is to be read once more. -/
  isPutBack : Bool := false
  last : Token := .endOfFile
  /-- The last word. -/
  word : Word := []
  wordIsQuoted : Bool := false
  checks : Checks := {}
  /-- The stream and kind of the last redirection. -/
  opened : Nat × Opened := (0, .duplicate)
  documents : Array Word := #[]
  awaited : List Awaited := []
  aliases : List (Chars × Chars) := []
  /-- The names that are being replaced, each with what is left when its text is used up. -/
  replacing : List (Chars × Nat) := []
  deriving Inhabited

/-- A step of a reader of scripts. -/
abbrev Parse := StateT Cursor (Except Fault)

namespace Parse

/-- Gives up. -/
def fault {α : Type} (message : String) : Parse α := fun c =>
  .error ⟨c.line, "Syntax error: " ++ message⟩

/-- Gives up because of the last token. -/
def unexpected {α : Type} (wanted : Option Token := none) : Parse α := do
  let found := (← get).last.shown ++ " unexpected"
  match wanted with
  | some t => fault (found ++ " (expecting " ++ t.shown ++ ")")
  | none => fault found

/-- Counts a line. -/
def countLine : Parse Unit := modify fun c => { c with line := c.line + 1 }

/-- A text without the ends of continued lines at its front, and their number. -/
def uncontinued (lines : Nat) : Chars → Chars × Nat
  | '\\' :: '\n' :: cs => uncontinued (lines + 1) cs
  | cs => (cs, lines)

/-- The next character, not taken; the ends of continued lines before it are. -/
def peek : Parse (Option Char) := modifyGet fun c =>
  let (rest, line) := uncontinued c.line c.rest
  (rest.head?, { c with rest, line })

/-- Takes the next character. -/
def next : Parse (Option Char) := modifyGet fun c =>
  match c.rest with
  | [] => (none, c)
  | x :: rest => (some x, { c with rest })

/-- Takes the next character after the ends of continued lines. -/
def nextEaten : Parse (Option Char) := do
  let _ ← peek
  next

/-- Takes the next character if it is a given one. -/
def accepts (x : Char) : Parse Bool := do
  if (← peek) = some x then
    let _ ← next
    return true
  else return false

/-- Takes characters as long as they pass a test. -/
def takeWhile (p : Char → Bool) : Nat → Parse Chars
  | 0 => return []
  | n + 1 => do
    match ← peek with
    | some x =>
      if p x then
        let _ ← next
        return x :: (← takeWhile p n)
      else return []
    | none => return []

/-- A text without the blanks, comments and ends of continued lines at its front. -/
def unblanked (lines : Nat) : Chars → Chars × Nat
  | ' ' :: cs => unblanked lines cs
  | '\t' :: cs => unblanked lines cs
  | '\\' :: '\n' :: cs => unblanked (lines + 1) cs
  | '#' :: cs => (cs.dropWhile (· != '\n'), lines)
  | cs => (cs, lines)

/-- Takes blanks and a comment. -/
def skipBlanks : Parse Unit := modify fun c =>
  let (rest, line) := unblanked c.line c.rest
  { c with rest, line }

/-- Puts the last token back. -/
def putBack : Parse Unit := modify fun c => { c with isPutBack := true }

/-- Sets what the next word is looked at as. -/
def check (checks : Checks) : Parse Unit := modify fun c => { c with checks }

/-- Where a command may start, after line ends. -/
def commandChecks : Checks := { newlines := true, keywords := true, aliases := true }

end Parse

end LintRun.Shell
