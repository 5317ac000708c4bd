import LintRun.Text.Digits
import LintRun.Text.Reader
import LintRun.Toml.Value

/-!
# Scalars and keys of TOML 1.0

Readers for blanks and comments, the four kinds of strings, integers, floats, booleans,
date-times, and dotted keys.  An integer outside 64 bits, a day that no month has and a
finite float beyond the largest are no scalars.

Together with the statements and the document this models the library that registry files are
read with.  Its wording of a syntax error is not modelled: there is no document, and that is all.
-/

namespace LintRun.Toml

open Reader

/-! ## 1. Blanks, line ends, comments -/

/-- A space or a tab. -/
def isSpace (c : Char) : Bool := c == ' ' || c == '\t'

/-- A character that may stand in a comment. -/
def isCommentChar (c : Char) : Bool := c == '\t' || (' ' ≤ c && c ≤ '~') || c.toNat ≥ 0x80

/-- Takes blanks inside a line. -/
def spaces : Reader Unit := do let _ ← takeWhile isSpace

/-- A line feed, or a carriage return with one. -/
def lineEnd : Reader Unit := token "\r\n" <|> char '\n'

/-- Takes a comment. -/
def comment : Reader Unit := do
  char '#'
  let _ ← takeWhile isCommentChar

/-- The end of a line that may carry a comment. -/
def lineTail : Reader Unit := do
  spaces
  let _ ← optional comment
  lineEnd <|> atEnd

/-- Blanks, line ends and comments, as between the items of an array. -/
def gap : Reader Unit := do
  let blank : Reader Unit := do let _ ← satisfy isSpace
  let _ ← many (blank <|> lineEnd <|> comment)

/-! ## 2. Strings -/

/-- The character of a code point, if it is one. -/
def codePoint (digits : List Char) : Reader Char :=
  let n := numberOf 16 digits
  if n.isValidChar then pure (Char.ofNat n) else failure

/-- What follows a backslash in a basic string. -/
def escaped : Reader Char := do
  let c ← satisfy fun _ => true
  match c with
  | 'b' => pure '\x08'
  | 't' => pure '\t'
  | 'n' => pure '\n'
  | 'f' => pure '\x0C'
  | 'r' => pure '\r'
  | '"' => pure '"'
  | '\\' => pure '\\'
  | 'u' => do codePoint (← takeExactly (isDigitOf 16) 4)
  | 'U' => do codePoint (← takeExactly (isDigitOf 16) 8)
  | _ => failure

/-- A character that stands for itself in a basic string. -/
def isBasicChar (c : Char) : Bool := isCommentChar c && c != '"' && c != '\\'

/-- A character that stands for itself in a literal string. -/
def isLiteralChar (c : Char) : Bool := isCommentChar c && c != '\''

/-- A text in quotes, with escapes. -/
def basicString : Reader String := do
  char '"'
  let cs ← many (satisfy isBasicChar <|> do char '\\'; escaped)
  char '"'
  pure (String.ofList cs)

/-- A text in single quotes, as it is. -/
def literalString : Reader String := do
  char '\''
  let cs ← takeWhile isLiteralChar
  char '\''
  pure (String.ofList cs)

/-- A backslash at the end of a line, with the blanks and line ends that follow. -/
def lineFold : Reader (List Char) := do
  char '\\'
  spaces
  lineEnd
  let _ ← many ((do let _ ← satisfy isSpace) <|> lineEnd)
  pure []

/-- One or two quotes that do not end a string of several lines. -/
def innerQuotes (quote : Char) : Reader (List Char) := do
  let qs ← takeWhile (· == quote)
  if qs.length ≤ 2 && !qs.isEmpty then pure qs else failure

/-- The three quotes at the end, with up to two more that belong to the string. -/
def closingQuotes (quote : Char) : Reader (List Char) := do
  let qs ← takeWhile (· == quote)
  if 3 ≤ qs.length && qs.length ≤ 5 then pure (qs.drop 3) else failure

/-- A string between triple quotes; a line end right after the first three is dropped. -/
def multilineString (quote : Char) (piece : Reader (List Char)) : Reader String := do
  token (String.ofList [quote, quote, quote])
  let _ ← optional lineEnd
  let pieces ← many ((do lineEnd; pure ['\n']) <|> piece <|> innerQuotes quote)
  let last ← closingQuotes quote
  pure (String.ofList (pieces.flatten ++ last))

/-- A text of several lines, with escapes. -/
def multilineBasicString : Reader String :=
  multilineString '"' <|
    (do pure [← satisfy isBasicChar]) <|> lineFold <|> do char '\\'; pure [← escaped]

/-- A text of several lines, as it is. -/
def multilineLiteralString : Reader String :=
  multilineString '\'' do pure [← satisfy isLiteralChar]

/-- A text in any of its written forms. -/
def string : Reader String :=
  multilineBasicString <|> multilineLiteralString <|> basicString <|> literalString

/-! ## 3. Numbers -/

/-- Digits of a base with single underscores between them. -/
def digitGroups (base : Nat) : Reader (List Char) := do
  let groups ← sepBy1 (takeWhile1 (isDigitOf base)) (char '_')
  pure groups.flatten

/-- Whether a sign was read, and whether it is a minus. -/
def sign : Reader (Option Bool) :=
  optional ((do char '-'; pure true) <|> (do char '+'; pure false))

/-- Decimal digits without a needless leading zero. -/
def wholeDigits : Reader (List Char) := do
  let ds ← (do char '0'; pure ['0']) <|> digitGroups 10
  pure ds

/-- Fits a signed 64-bit word. -/
def fitsWord (n : Int) : Bool := -9223372036854775808 ≤ n && n ≤ 9223372036854775807

/-- A whole number that fits a word. -/
def integerOf (n : Int) : Reader Value :=
  if fitsWord n then pure (.integer n) else failure

/-- An integer with a base mark. -/
def basedInteger (mark : String) (base : Nat) : Reader Value := do
  token mark
  integerOf (numberOf base (← digitGroups base))

/-- A whole number in decimal, perhaps with a sign. -/
def decimalInteger : Reader Value := do
  let negative := (← sign).getD false
  let n : Int := numberOf 10 (← wholeDigits)
  integerOf (if negative then -n else n)

/-- A whole number in any base. -/
def integer : Reader Value :=
  basedInteger "0x" 16 <|> basedInteger "0o" 8 <|> basedInteger "0b" 2 <|> decimalInteger

/-- The exponent of a float. -/
def exponent : Reader Int := do
  char 'e' <|> char 'E'
  let negative := (← sign).getD false
  let n : Int := numberOf 10 (← digitGroups 10)
  pure (if negative then -n else n)

/-- The places of a float after the point. -/
def places : Reader (List Char) := do char '.'; digitGroups 10

/-- A float with places, an exponent, or both. -/
def plainFloat : Reader Value := do
  let negative := (← sign).getD false
  let whole ← wholeDigits
  let frac ← optional places
  let exp ← optional exponent
  if frac.isNone && exp.isNone then failure
  let frac := frac.getD []
  let x := Binary64.ofDecimal negative (numberOf 10 (whole ++ frac)) (exp.getD 0 - frac.length)
  if x = .infinite false then failure else pure (.float x)

/-- A number that has a name instead of digits. -/
def namedFloat : Reader Value := do
  let negative := (← sign).getD false
  (do token "inf"; pure (.float (.infinite negative))) <|>
    do token "nan"; pure (.float .nan)

/-! ## 4. Date-times -/

/-- A number of exactly `width` digits between two bounds. -/
def fixedNumber (width low high : Nat) : Reader Nat := do
  let n := numberOf 10 (← takeExactly isDecimal width)
  if low ≤ n && n ≤ high then pure n else failure

/-- Whether a year has a leap day. -/
def isLeapYear (year : Nat) : Bool := (year % 4 == 0 && year % 100 != 0) || year % 400 == 0

/-- How many days a month has. -/
def daysInMonth (year month : Nat) : Nat :=
  if month == 2 then if isLeapYear year then 29 else 28
  else if month == 4 || month == 6 || month == 9 || month == 11 then 30
  else 31

/-- A date. -/
def date : Reader String := do
  let year ← fixedNumber 4 0 9999
  char '-'
  let month ← fixedNumber 2 1 12
  char '-'
  let day ← fixedNumber 2 1 (daysInMonth year month)
  pure s!"{paddedDecimal 4 year}-{paddedDecimal 2 month}-{paddedDecimal 2 day}"

/-- Places of a second: nine are kept, and zeros at the end are dropped. -/
def secondPlaces (ds : List Char) : String :=
  let kept := ((ds.take 9).reverse.dropWhile (· == '0')).reverse
  if kept.isEmpty then "" else String.ofList ('.' :: kept)

/-- A time of day. -/
def time : Reader String := do
  let hour ← fixedNumber 2 0 23
  char ':'
  let minute ← fixedNumber 2 0 59
  char ':'
  let second ← fixedNumber 2 0 60
  let frac ← optional (do char '.'; takeWhile1 isDecimal)
  let text := secondPlaces (frac.getD [])
  pure s!"{paddedDecimal 2 hour}:{paddedDecimal 2 minute}:{paddedDecimal 2 second}{text}"

/-- The distance of a local time from the universal one; no distance is written with a plus. -/
def offset : Reader String :=
  (do let _ ← satisfy fun c => c == 'Z' || c == 'z'; pure "Z") <|> do
    let c ← satisfy fun c => c == '+' || c == '-'
    let hour ← fixedNumber 2 0 23
    char ':'
    let minute ← fixedNumber 2 0 59
    let sign := if hour == 0 && minute == 0 then '+' else c
    pure s!"{sign}{paddedDecimal 2 hour}:{paddedDecimal 2 minute}"

/-- A date, a time of day, or both. -/
def moment : Reader Value := do
  let dated : Reader String := do
    let day ← date
    let later ← optional do
      let _ ← satisfy fun c => c == 'T' || c == 't' || c == ' '
      let clock ← time
      let shift ← optional offset
      pure ("T" ++ clock ++ shift.getD "")
    pure (day ++ later.getD "")
  pure (.moment (← dated <|> time))

/-! ## 5. Scalars and keys -/

/-- A truth value. -/
def boolean : Reader Value :=
  (do token "true"; pure (.boolean true)) <|> do token "false"; pure (.boolean false)

/-- Any value that is neither an array nor a table. -/
def scalar : Reader Value :=
  (do pure (.string (← string))) <|> boolean <|> moment <|> plainFloat <|> namedFloat <|> integer

/-- A character of an unquoted key. -/
def isBareKeyChar (c : Char) : Bool := isAsciiAlphanumeric c || c == '_' || c == '-'

/-- One key between dots. -/
def simpleKey : Reader String := do
  spaces
  let k ← basicString <|> literalString <|> do
    pure (String.ofList (← takeWhile1 isBareKeyChar))
  spaces
  pure k

/-- How deep keys and values may be nested. -/
def depthLimit : Nat := 79

/-- A dotted key. -/
def dottedKey : Reader (List String) := do
  let ks ← sepBy1 simpleKey (char '.')
  if ks.length ≤ depthLimit then pure ks else failure

end LintRun.Toml
