import LintRun.Text.Digits
import LintRun.Unicode.Shown

/-!
# Quoted text in messages

A text in double quotes in which a quote, a backslash, a line end and whatever is not seen
when printed is written as an escape.
-/

namespace LintRun

/-- The digits of a number in lower-case hexadecimal. -/
def hexText (n : Nat) : String := String.ofList (Nat.toDigits 16 n)

/-- One character between the quotes. -/
def quotedChar (c : Char) : String :=
  match c with
  | '\x00' => "\\0"
  | '\t' => "\\t"
  | '\n' => "\\n"
  | '\r' => "\\r"
  | '"' => "\\\""
  | '\\' => "\\\\"
  | c => if Unicode.isShown c then c.toString else "\\u\x7b" ++ hexText c.toNat ++ "\x7d"

/-- A text in quotes. -/
def quoted (s : String) : String :=
  "\"" ++ String.join (s.toList.map quotedChar) ++ "\""

end LintRun
