import LintRun.Path.Set
import LintRun.Registry.Category

/-!
# Registries

A registry holds the categories of a source root in the order of its file, the paths that
are never linted, and the command that lists changed files.  No two categories share a name.

* `Registry.ofFile` reports the fault of the first category that has one: a name already
  taken, then what `Category.ofEntry` finds;
* `Registry.select` gives the categories with requested names, in registry order, each once.

Models `CategoryRegistry` with its `from_file`, `get`, `select` and accessors.
-/

namespace LintRun

/-- Why a registry file makes no registry, or a request no selection. -/
inductive RegistryError
  | duplicateName (name first second : String)
  | invalidCategory (key : String) (fault : EntryFault)
  | badPattern (category pattern : String) (fault : Pattern.Fault)
  | unknownCategory (name : String)

/-- The wording of an error. -/
def RegistryError.message : RegistryError → String
  | .duplicateName name first second =>
    "Duplicate category name '" ++ name ++ "' in categories '" ++ first ++ "' and '" ++
      second ++ "'"
  | .invalidCategory key fault => "Invalid category '" ++ key ++ "': " ++ fault.message
  | .badPattern category pattern fault =>
    "Invalid noise pattern '" ++ pattern ++ "' in category '" ++ category ++ "': " ++
      fault.message
  | .unknownCategory name => "Unknown category '" ++ name ++ "'"

/-- What an error goes back to. -/
def RegistryError.causes : RegistryError → List String
  | .badPattern _ _ fault => [fault.message]
  | _ => []

/-- The categories of a source root. -/
structure Registry where
  sourceRoot : Path
  categories : List Category
  blacklist : PathSet
  vcs : ChangeCommand
  deriving Inhabited

namespace Registry

/-! ## 1. Construction -/

/-- The names taken so far, each with the key of the category that took it. -/
abbrev Owners := List (String × String)

/-- Takes names for a category, in order, unless one is taken. -/
def takeNames (key : String) : List String → Owners → Except RegistryError Owners
  | [], owners => .ok owners
  | name :: names, owners =>
    match owners.lookup name with
    | some first => .error (.duplicateName name first key)
    | none => takeNames key names ((name, key) :: owners)

/-- The category of an entry, or its error in a registry. -/
def category (root : Path) (e : CategoryEntry) : Except RegistryError Category :=
  match Category.ofEntry root e with
  | .ok c => .ok c
  | .error (.fault f) => .error (.invalidCategory e.key f)
  | .error (.badPattern text fault) => .error (.badPattern e.key text fault)

/-- The categories of entries, in order, with the names taken before them. -/
def categoriesOf (root : Path) : List CategoryEntry → Owners →
    Except RegistryError (List Category)
  | [], _ => .ok []
  | e :: es, owners => do
    let owners ← takeNames e.key e.names owners
    let c ← category root e
    let cs ← categoriesOf root es owners
    return c :: cs

/-- The registry of a file, read in a source root. -/
def ofFile (sourceRoot : Path) (file : RegistryFile) : Except RegistryError Registry := do
  let root := sourceRoot.normalize
  let categories ← categoriesOf root file.categories []
  return {
    sourceRoot := root
    categories
    blacklist := .resolveAll root (file.blacklist.map Path.ofString)
    vcs := file.vcs.fillIn root.display }

/-! ## 2. Selection -/

/-- The category that answers to a name. -/
def get? (r : Registry) (name : String) : Option Category :=
  r.categories.find? fun c => c.names.contains name

/-- The categories that answer to the names, in registry order; all of them if there are no
names. -/
def select (r : Registry) (names : List String) : Except RegistryError (List Category) :=
  if names.isEmpty then .ok r.categories
  else
    match names.find? fun n => (r.get? n).isNone with
    | some n => .error (.unknownCategory n)
    | none => .ok (r.categories.filter fun c => c.names.any names.contains)

end Registry

end LintRun
