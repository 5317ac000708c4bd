import LintRun.Toml.Scalar

/-!
# The statements of a TOML document

A document is a list of statements: table headers, headers of one more table of an array,
and entries.  Arrays and inline tables may be nested `depthLimit` deep.
-/

namespace LintRun.Toml

open Reader

/-- One line of meaning. -/
inductive Statement
  /-- `[a.b]` -/
  | header (path : List String)
  /-- `[[a.b]]` -/
  | itemHeader (path : List String)
  /-- `a.b = value` -/
  | entry (path : List String) (value : Value)

/-- The entries of an inline table before its dotted keys are sorted into tables. -/
abbrev DottedEntries := List (List String × Value)

section

variable (inlineTable : DottedEntries → Option Entries)

/-- `key = value` inside braces. -/
def inlineEntry (item : Reader Value) : Reader (List String × Value) := do
  let path ← dottedKey
  char '='
  spaces
  let v ← item
  spaces
  pure (path, v)

/-- A value whose arrays and inline tables are nested at most so deep. -/
def value : Nat → Reader Value
  | 0 => scalar
  | depth + 1 => do
    match ← peek with
    | some '[' =>
      char '['
      let item : Reader Value := do
        gap
        let v ← value depth
        gap
        pure v
      let items ← sepBy item (char ',')
      if !items.isEmpty then
        let _ ← optional (char ',')
      gap
      char ']'
      pure (.array items)
    | some '\x7b' =>
      char '\x7b'
      spaces
      let entries ← sepBy (inlineEntry (value depth)) (char ',')
      char '\x7d'
      match inlineTable entries with
      | some es => pure (.table es)
      | none => failure
    | _ => scalar

/-- One statement with the end of its line. -/
def statement : Reader Statement :=
  (do
    token "[["
    let path ← dottedKey
    token "]]"
    lineTail
    pure (.itemHeader path)) <|>
  (do
    char '['
    let path ← dottedKey
    char ']'
    lineTail
    pure (.header path)) <|> do
  let path ← dottedKey
  char '='
  spaces
  let v ← value inlineTable depthLimit
  lineTail
  pure (.entry path v)

/-- A line without a statement. -/
def emptyLine : Reader Unit := do
  let _ ← optional comment
  lineEnd <|> do
    if (← rest).isEmpty then pure () else failure

/-- All statements of a document; a byte order mark in front is skipped. -/
def statements : Reader (List Statement) := do
  let _ ← optional (char '\uFEFF')
  let lines ← many do
    spaces
    (do emptyLine; pure none) <|> (do pure (some (← statement inlineTable)))
  pure (lines.filterMap id)

end

end LintRun.Toml
