import LintRun.Decimal.Binary64

/-!
# TOML values

Tables keep their entries in document order.  A date-time is kept as its normalized text;
where a table is asked for, it counts as a table with that text as its one entry.

Models the values of the library that registry files are read with.
-/

namespace LintRun.Toml

/-- A TOML value. -/
inductive Value
  | string (text : String)
  | integer (n : Int)
  | float (x : Binary64)
  | boolean (b : Bool)
  | moment (text : String)
  | array (items : List Value)
  | table (entries : List (String × Value))
  deriving Inhabited

/-- The entries of a table, in document order. -/
abbrev Entries := List (String × Value)

/-- The key under which a date-time that is read as a table holds its text. -/
def momentKey : String := "$__toml_private_datetime"

namespace Value

/-- The entries of a value that can be read as a table. -/
def entries? : Value → Option Entries
  | .table entries => some entries
  | .moment text => some [(momentKey, .string text)]
  | _ => none

/-- The name of a kind of value. -/
def kind : Value → String
  | .string _ => "string"
  | .integer _ => "integer"
  | .float _ => "float"
  | .boolean _ => "boolean"
  | .moment _ => "datetime"
  | .array _ => "array"
  | .table _ => "table"

end Value

end LintRun.Toml
