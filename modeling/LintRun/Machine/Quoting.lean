import LintRun.Text.Digits
import LintRun.Text.Octets

/-!
# Names in messages

How programs write names of files and other texts in their messages, so that a command
interpreter would read them back: in single quotes where something in them asks for it, in double
quotes if there are single ones in them, and bytes that cannot be shown as numbers.
-/

namespace LintRun.Quoting

/-- Characters that are shown as they are. -/
def isShown (c : Char) : Bool := ' ' ≤ c && c ≤ '~'

/-- Characters that need no quotes wherever they stand. -/
def isPlain (c : Char) : Bool :=
  isAsciiAlphanumeric c || "%+,-./:]_@".toList.contains c

/-- Characters that need quotes only at the start. -/
def isPlainInside (c : Char) : Bool := isPlain c || c == '#' || c == '~' || c == '{' || c == '}'

/-- Whether a text needs quotes. -/
def needsQuotes (cs : Chars) : Bool :=
  match cs with
  | [] => true
  | [c] => !isPlain c
  | c :: rest => !(isPlain c || c == '{' || c == '}') || !rest.all isPlainInside

/-- Characters that mean the same in both kinds of quotes. -/
def isCommon (c : Char) : Bool := isPlain c || c == ' ' || c == '\''

/-- The escape of a byte that cannot be shown. -/
def escaped (c : Char) : Chars :=
  match c with
  | '\x07' => ['\\', 'a']
  | '\x08' => ['\\', 'b']
  | '\t' => ['\\', 't']
  | '\n' => ['\\', 'n']
  | '\x0B' => ['\\', 'v']
  | '\x0C' => ['\\', 'f']
  | '\r' => ['\\', 'r']
  | c =>
    let ds := Nat.toDigits 8 c.toNat
    '\\' :: List.replicate (3 - ds.length) '0' ++ ds

/-- A text in single quotes: a quote in it stands between quotes of its own, and bytes that cannot
be shown stand in quotes with a dollar sign.  `isOpen` tells whether the latter are open. -/
def body : (isOpen : Bool) → Chars → Chars
  | _, [] => []
  | isOpen, c :: cs =>
    if c == '\'' then "'\\''".toList ++ body false cs
    else if isShown c then (if isOpen then ['\'', '\''] else []) ++ c :: body false cs
    else (if isOpen then [] else ['\'', '$', '\'']) ++ escaped c ++ body true cs

/-- Whether a text means the same in both kinds of quotes. -/
def isCommonText (cs : Chars) : Bool :=
  match cs with
  | [] => true
  | c :: rest => (isCommon c || c == '#' || c == '~') && rest.all isCommon

/-- A text in quotes. -/
def quoted (cs : Chars) : Chars :=
  if cs.contains '\'' && isCommonText cs then '"' :: cs ++ ['"']
  else '\'' :: body false cs ++ ['\'']

/-- A text in quotes where they are needed. -/
def ifNeeded (cs : Chars) : Chars := if needsQuotes cs then quoted cs else cs

/-- A text between single quotes, with escapes for what cannot be shown and for quotes. -/
def plainly (cs : Chars) : Chars :=
  '\'' :: (cs.flatMap fun c =>
    if c == '\'' || c == '\\' then ['\\', c] else if isShown c then [c] else escaped c) ++ ['\'']

end LintRun.Quoting
