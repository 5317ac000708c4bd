import LintRun.Text.Digits

/-!
# JSON documents

Values with whole numbers, and their text: two spaces deeper for each level, one item or
member to a line, escapes for quotes, backslashes and the characters below the blank.

Models the values and the pretty printer that `to_json` hands a report to; there are no
fractions in a report.
-/

namespace LintRun

/-- A JSON value. -/
inductive Json
  | string (s : String)
  | number (n : Int)
  | array (items : List Json)
  | object (members : List (String × Json))
  deriving Inhabited

namespace Json

/-- One character of a string. -/
def escape (c : Char) : List Char :=
  match c with
  | '"' => ['\\', '"']
  | '\\' => ['\\', '\\']
  | '\x08' => ['\\', 'b']
  | '\x0C' => ['\\', 'f']
  | '\n' => ['\\', 'n']
  | '\r' => ['\\', 'r']
  | '\t' => ['\\', 't']
  | c =>
    if c.toNat < 0x20 then
      ['\\', 'u', '0', '0', Nat.digitChar (c.toNat / 16), Nat.digitChar (c.toNat % 16)]
    else [c]

/-- A string in quotes. -/
def stringText (s : String) : List Char := '"' :: s.toList.flatMap escape ++ ['"']

/-- The start of a line at some depth. -/
def newline (depth : Nat) : List Char := '\n' :: List.replicate (2 * depth) ' '

mutual

/-- The text of a value at some depth. -/
def text (depth : Nat) : Json → List Char
  | .string s => stringText s
  | .number n => (toString n).toList
  | .array [] => ['[', ']']
  | .array (v :: vs) =>
    '[' :: newline (depth + 1) ++ text (depth + 1) v ++ itemsText (depth + 1) vs ++
      newline depth ++ [']']
  | .object [] => ['\x7b', '\x7d']
  | .object ((k, v) :: ms) =>
    '\x7b' :: newline (depth + 1) ++ stringText k ++ [':', ' '] ++ text (depth + 1) v ++
      membersText (depth + 1) ms ++ newline depth ++ ['\x7d']

/-- The items after the first. -/
def itemsText (depth : Nat) : List Json → List Char
  | [] => []
  | v :: vs => ',' :: newline depth ++ text depth v ++ itemsText depth vs

/-- The members after the first. -/
def membersText (depth : Nat) : List (String × Json) → List Char
  | [] => []
  | (k, v) :: ms =>
    ',' :: newline depth ++ stringText k ++ [':', ' '] ++ text depth v ++ membersText depth ms

end

/-- The text of a document. -/
def render (v : Json) : String := String.ofList (text 0 v)

end Json

end LintRun
