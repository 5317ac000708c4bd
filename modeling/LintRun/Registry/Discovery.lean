import LintRun.Registry.Basic
import LintRun.Registry.Schema
import LintRun.Registry.Stock
import LintRun.Tree.Locate

/-!
# Finding the registry of a source tree

The registry is read from a file that is named, else from the file that a source root keeps
for itself, else it is the stock registry.

Models `from_toml`, `from_toml_str`, `default_categories` and `discover`, and the errors of
reading in `ConfigError`.
-/

namespace LintRun

/-- Why a registry cannot be had. -/
inductive LoadError
  | unreadable (path : Path) (cause : OsError)
  /-- The file is not written in TOML. -/
  | notToml
  | misfit (e : SchemaError)
  | registry (e : RegistryError)

namespace LoadError

/-- The wording of an error; what is wrong with a file that is not TOML is not told. -/
def message : LoadError → String
  | .unreadable path cause =>
    "Failed to read registry file " ++ path.display ++ ": " ++ cause.message
  | .notToml => "Failed to parse registry TOML:"
  | .misfit e => "Failed to parse registry TOML: " ++ e.message
  | .registry e => e.message

/-- What an error goes back to, nearest cause first. -/
def causes : LoadError → List String
  | .unreadable _ cause => [cause.message]
  | .notToml => []
  | .misfit e => [e.message]
  | .registry e => e.causes

end LoadError

namespace Registry

/-- The registry that a TOML text describes, read in a source root. -/
def ofText (sourceRoot : Path) (text : String) : Except LoadError Registry :=
  match Toml.parse text with
  | none => .error .notToml
  | some entries =>
    match RegistryFile.ofEntries entries with
    | .error e => .error (.misfit e)
    | .ok file => (ofFile sourceRoot file).mapError .registry

/-- The registry for a source root without a registry file. -/
def stock (sourceRoot : Path) : Except LoadError Registry :=
  (ofFile sourceRoot .stock).mapError .registry

/-- The registry of a file in a tree. -/
def load (t : Tree) (sourceRoot file : Path) : Except LoadError Registry :=
  match t.readText file with
  | .error cause => .error (.unreadable file cause)
  | .ok text => ofText sourceRoot text

/-- The file in which a source root keeps its registry. -/
def localFile (sourceRoot : Path) : Path := sourceRoot.join (.ofString ".polylint.toml")

/-- The registry of a source root, from a named file if there is one. -/
def discover (t : Tree) (sourceRoot : Path) (named : Option Path) : Except LoadError Registry :=
  match named with
  | some file => load t sourceRoot file
  | none =>
    let file := localFile sourceRoot
    if t.isFile file then load t sourceRoot file else stock sourceRoot

end Registry

end LintRun
