import LintRun.Noise
import LintRun.Registry.Template
import LintRun.Suffixes
import LintRun.Text.Blank

/-!
# Categories of a source tree

A category entry read in a source root: paths are resolved, templates filled in, patterns
compiled.  `Category.ofEntry` says which entries make no category, and why.

Models `Category`, its `resolve`, `names` and `matches`, and the errors of one category.
-/

namespace LintRun

/-- What keeps an entry from being a category. -/
inductive EntryFault
  | blankKey
  | noRoots
  | noExtensions
  | blankProgram
  deriving DecidableEq

/-- The wording of a fault. -/
def EntryFault.message : EntryFault → String
  | .blankKey => "key must not be empty"
  | .noRoots => "at least one scan root is required"
  | .noExtensions => "at least one non-empty extension is required"
  | .blankProgram => "tool program must not be empty"

/-- Why an entry makes no category. -/
inductive EntryError
  | fault (f : EntryFault)
  | badPattern (text : String) (fault : Pattern.Fault)

/-- A category of files with the tool that checks them. -/
structure Category where
  key : String
  aliases : List String
  description : String
  roots : List Path
  ignoreRoots : List Path
  suffixes : Suffixes
  noise : Noise
  mode : Mode
  tool : Tool
  fixer : Option Tool
  deriving Inhabited

/-- All names a category answers to, its key first. -/
def Category.names (c : Category) : List String := c.key :: c.aliases

/-- Whether an extension is more than dots. -/
def isExtension (ext : String) : Bool := bareExtension ext != ""

/-- The first fault of an entry. -/
def CategoryEntry.fault? (e : CategoryEntry) : Option EntryFault :=
  if isBlankText e.key then some .blankKey
  else if e.roots.isEmpty then some .noRoots
  else if !e.extensions.any isExtension then some .noExtensions
  else if isBlankText e.tool.program then some .blankProgram
  else none

/-- The category of an entry, in a source root in normal form. -/
def Category.ofEntry (root : Path) (e : CategoryEntry) : Except EntryError Category :=
  match e.fault? with
  | some f => .error (.fault f)
  | none =>
    match Noise.ofTexts e.noise with
    | .error (text, fault) => .error (.badPattern text fault)
    | .ok noise => .ok {
        key := e.key
        aliases := e.aliases
        description := e.description
        roots := e.roots.map fun r => root.resolve (.ofString r)
        ignoreRoots := e.ignoreRoots.map fun r => root.resolve (.ofString r)
        suffixes := .ofExtensions (e.extensions.filter isExtension)
        noise
        mode := e.mode
        tool := e.tool.fillIn root.display
        fixer := e.fixer.map (·.fillIn root.display) }

end LintRun
