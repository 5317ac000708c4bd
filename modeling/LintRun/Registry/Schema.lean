import LintRun.Registry.File
import LintRun.Text.Quoted
import LintRun.Toml.Document

/-!
# The schema of registry files

`RegistryFile.ofEntries` reads a TOML table as a registry file.  A structure is a table with
declared fields only, or an array that gives the fields by position.  The entries of a
table are checked in document order; then missing fields are reported in declared order.

`RegistryFile.toEntries` writes the table that reads back as a given file.

Models the decoding that is derived for these structures: the fields of each in declared order,
which of them may be missing, and the wording of what is wrong.
-/

namespace LintRun

open Toml

/-! ## 1. Errors -/

/-- Why a table is no registry file. -/
inductive SchemaError
  | missingField (name : String)
  | unknownField (found : String) (expected : List String)
  | unknownVariant (found : String) (expected : List String)
  | wrongType (found : Value) (wanted : String)
  | outOfRange (n : Int) (wanted : String)
  | tooShort (length : Nat) (wanted : String)
  | noVariant
  | severalVariants
  | notAVariant
  | variantWithItems
  | variantWithEntries
  | variantWithScalar (kind : String)

namespace SchemaError

/-- A name in backquotes. -/
def ticked (name : String) : String := "\x60" ++ name ++ "\x60"

/-- The names that were expected. -/
def alternatives : List String → String
  | [] => "there are no fields"
  | [a] => "expected " ++ ticked a
  | [a, b] => "expected " ++ ticked a ++ " or " ++ ticked b
  | names => "expected one of " ++ String.intercalate ", " (names.map ticked)

/-- What was found, with its value where it is short. -/
def found : Value → String
  | .string s => "string " ++ quoted s
  | .integer n => "integer " ++ ticked (toString n)
  | .float x => "floating point " ++ ticked x.text
  | .boolean b => "boolean " ++ ticked (if b then "true" else "false")
  | .array _ => "sequence"
  | .moment _ | .table _ => "map"

/-- The wording of an error. -/
def message : SchemaError → String
  | .missingField name => "missing field " ++ ticked name
  | .unknownField name expected => "unknown field " ++ ticked name ++ ", " ++ alternatives expected
  | .unknownVariant name expected =>
    "unknown variant " ++ ticked name ++ ", " ++ alternatives expected
  | .wrongType v wanted => "invalid type: " ++ found v ++ ", expected " ++ wanted
  | .outOfRange n wanted => "invalid value: " ++ found (.integer n) ++ ", expected " ++ wanted
  | .tooShort length wanted => "invalid length " ++ toString length ++ ", expected " ++ wanted
  | .noVariant => "wanted exactly 1 element, found 0 elements"
  | .severalVariants => "wanted exactly 1 element, more than 1 element"
  | .notAVariant => "wanted string or table"
  | .variantWithItems => "expected empty array"
  | .variantWithEntries => "expected empty table"
  | .variantWithScalar kind => "expected table, found " ++ kind

end SchemaError

/-- A reader of one value. -/
abbrev Decoder (α : Type) := Value → Except SchemaError α

namespace Schema

/-! ## 2. Simple values -/

/-- A text. -/
def string : Decoder String
  | .string s => .ok s
  | v => .error (.wrongType v "a string")

/-- A truth value. -/
def boolean : Decoder Bool
  | .boolean b => .ok b
  | v => .error (.wrongType v "a boolean")

/-- Fits a signed 32-bit word. -/
def fitsCode (n : Int) : Bool := -2147483648 ≤ n && n ≤ 2147483647

/-- An exit code. -/
def code : Decoder Int
  | .integer n => if fitsCode n then .ok n else .error (.outOfRange n "i32")
  | v => .error (.wrongType v "i32")

/-- The items of an array, each read in the same way. -/
def list {α : Type} (item : Decoder α) : Decoder (List α)
  | .array items => items.mapM item
  | v => .error (.wrongType v "a sequence")

/-- A table whose values are strings. -/
def bindings : Decoder Bindings := fun v =>
  match v.entries? with
  | some entries => do
    let values ← entries.mapM fun (name, v) => do return (name, ← string v)
    return .ofList values
  | none => .error (.wrongType v "a map")

/-! ## 3. Choices -/

/-- The modes by name. -/
def modes : List (String × Mode) := [(Mode.batch.name, .batch), (Mode.perFile.name, .perFile)]

/-- A mode by name. -/
def modeNamed (name : String) : Except SchemaError Mode :=
  match modes.lookup name with
  | some m => .ok m
  | none => .error (.unknownVariant name (modes.map (·.1)))

/-- What stands for the contents of a choice that has none. -/
def noContents : Decoder Unit
  | .array [] => .ok ()
  | .array _ => .error .variantWithItems
  | .table [] => .ok ()
  | .table _ => .error .variantWithEntries
  | v => .error (.variantWithScalar v.kind)

/-- A mode: its name, or a table with the name as its one key. -/
def mode : Decoder Mode
  | .string name => modeNamed name
  | .table [] => .error .noVariant
  | .table [(name, v)] => do
    let m ← modeNamed name
    noContents v
    return m
  | .table _ => .error .severalVariants
  | _ => .error .notAVariant

/-! ## 4. Structures -/

/-- A field of a structure: its name and whether a value suits it. -/
structure Field where
  name : String
  check : Decoder Unit

/-- A field whose values are read by a decoder. -/
def field {α : Type} (name : String) (decode : Decoder α) : Field :=
  ⟨name, fun v => do let _ ← decode v⟩

/-- Checks the entries of a table in document order. -/
def checkEntries (fields : List Field) : Entries → Except SchemaError Unit
  | [] => .ok ()
  | (name, v) :: rest =>
    match fields.find? (·.name = name) with
    | none => .error (.unknownField name (fields.map (·.name)))
    | some f => do
      f.check v
      checkEntries fields rest

/-- The entries of a structure, and what to say when a field is missing. -/
structure Record where
  entries : Entries
  missing : String → SchemaError

/-- The fields of a structure by name. -/
def record (title : String) (fields : List Field) : Decoder Record := fun v =>
  match v with
  | .array items => do
    let names := fields.map (·.name)
    let entries := names.zip items
    checkEntries fields entries
    return {
      entries
      missing := fun name => .tooShort (names.idxOf name)
        ("struct " ++ title ++ " with " ++ toString fields.length ++ " elements") }
  | v =>
    match v.entries? with
    | some entries => do
      checkEntries fields entries
      return { entries, missing := .missingField }
    | none => .error (.wrongType v ("struct " ++ title))

namespace Record

/-- The value of a field that must be there. -/
def required {α : Type} (r : Record) (name : String) (decode : Decoder α) :
    Except SchemaError α :=
  match r.entries.lookup name with
  | some v => decode v
  | none => .error (r.missing name)

/-- The value of a field that may be missing. -/
def optional {α : Type} (r : Record) (name : String) (decode : Decoder α) :
    Except SchemaError (Option α) :=
  match r.entries.lookup name with
  | some v => do return some (← decode v)
  | none => .ok none

/-- The value of a field that has a default. -/
def withDefault {α : Type} (r : Record) (name : String) (default : α) (decode : Decoder α) :
    Except SchemaError α := do
  return (← r.optional name decode).getD default

end Record

/-- The fields of a tool. -/
def toolFields : List Field := [
  field "program" string,
  field "args" (list string),
  field "fix_args" (list string),
  field "check_args" (list string),
  field "env" bindings,
  field "cwd" string,
  field "capture_stderr" boolean,
  field "needs_format_status" code]

/-- A tool. -/
def tool : Decoder Tool := fun v => do
  let r ← record "ToolDefinition" toolFields v
  return {
    program := ← r.required "program" string
    arguments := ← r.withDefault "args" [] (list string)
    fixArguments := ← r.withDefault "fix_args" [] (list string)
    checkArguments := ← r.withDefault "check_args" [] (list string)
    environment := ← r.withDefault "env" .empty bindings
    directory := ← r.optional "cwd" string
    capturesErrors := ← r.withDefault "capture_stderr" false boolean
    needsFormatCode := ← r.optional "needs_format_status" code }

/-- The fields of a category. -/
def categoryFields : List Field := [
  field "key" string,
  field "aliases" (list string),
  field "description" string,
  field "roots" (list string),
  field "ignore_roots" (list string),
  field "extensions" (list string),
  field "noise" (list string),
  field "mode" mode,
  field "tool" tool,
  field "fixer" tool]

/-- A category as it is written. -/
def category : Decoder CategoryEntry := fun v => do
  let r ← record "CategoryDefinition" categoryFields v
  return {
    key := ← r.required "key" string
    aliases := ← r.withDefault "aliases" [] (list string)
    description := ← r.withDefault "description" "" string
    roots := ← r.required "roots" (list string)
    ignoreRoots := ← r.withDefault "ignore_roots" [] (list string)
    extensions := ← r.required "extensions" (list string)
    noise := ← r.withDefault "noise" [] (list string)
    mode := ← r.withDefault "mode" .batch mode
    tool := ← r.required "tool" tool
    fixer := ← r.optional "fixer" tool }

/-- The fields of the command that lists changed files. -/
def vcsFields : List Field := [
  field "program" string,
  field "args" (list string)]

/-- The command that lists changed files. -/
def vcs : Decoder ChangeCommand := fun v => do
  let r ← record "VcsDefinition" vcsFields v
  return {
    program := ← r.required "program" string
    arguments := ← r.withDefault "args" [] (list string) }

/-- The fields of a registry file. -/
def fileFields : List Field := [
  field "blacklist" (list string),
  field "vcs" vcs,
  field "category" (list category)]

end Schema

/-! ## 5. Registry files -/

open Schema in
/-- The registry file that a table holds. -/
def RegistryFile.ofEntries (entries : Entries) : Except SchemaError RegistryFile := do
  checkEntries fileFields entries
  let r : Record := { entries, missing := .missingField }
  return {
    blacklist := ← r.withDefault "blacklist" [] (list string)
    vcs := ← r.withDefault "vcs" .standard Schema.vcs
    categories := ← r.withDefault "category" [] (list Schema.category) }

namespace Schema

/-- The array of some texts. -/
def ofStrings (texts : List String) : Value := .array (texts.map .string)

/-- An entry that is left out when there is no value. -/
def optionalEntry (name : String) (v : Option Value) : Entries := v.toList.map fun v => (name, v)

/-- The table of a tool. -/
def ofTool (t : Tool) : Value := .table <|
  [("program", .string t.program),
    ("args", ofStrings t.arguments),
    ("fix_args", ofStrings t.fixArguments),
    ("check_args", ofStrings t.checkArguments),
    ("env", .table (t.environment.toList.map fun (name, value) => (name, .string value)))] ++
  optionalEntry "cwd" (t.directory.map .string) ++
  [("capture_stderr", .boolean t.capturesErrors)] ++
  optionalEntry "needs_format_status" (t.needsFormatCode.map .integer)

/-- The table of a category. -/
def ofCategory (c : CategoryEntry) : Value := .table <|
  [("key", .string c.key),
    ("aliases", ofStrings c.aliases),
    ("description", .string c.description),
    ("roots", ofStrings c.roots),
    ("ignore_roots", ofStrings c.ignoreRoots),
    ("extensions", ofStrings c.extensions),
    ("noise", ofStrings c.noise),
    ("mode", .string c.mode.name),
    ("tool", ofTool c.tool)] ++
  optionalEntry "fixer" (c.fixer.map ofTool)

/-- The table of the command that lists changed files. -/
def ofVcs (v : ChangeCommand) : Value := .table
  [("program", .string v.program), ("args", ofStrings v.arguments)]

end Schema

open Schema in
/-- The table of a registry file, fields in declared order. -/
def RegistryFile.toEntries (f : RegistryFile) : Entries :=
  [("blacklist", ofStrings f.blacklist),
    ("vcs", ofVcs f.vcs),
    ("category", .array (f.categories.map ofCategory))]

end LintRun
