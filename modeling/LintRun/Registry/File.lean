import LintRun.Registry.Bindings

/-!
# The contents of a registry file

What a registry file says before paths are resolved and templates are filled in.

Models `RegistryFile`, `CategoryDefinition`, `ToolDefinition`, `VcsDefinition` and `DispatchMode`,
with `mode_args` and `names`.
-/

namespace LintRun

/-- How the files of a category are handed to its tool. -/
inductive Mode
  /-- One start with all files. -/
  | batch
  /-- One start for each file. -/
  | perFile
  deriving DecidableEq, Inhabited

/-- The written name of a mode. -/
def Mode.name : Mode → String
  | .batch => "batch"
  | .perFile => "per-file"

/-- A command that checks or fixes files. -/
structure Tool where
  program : String
  /-- Arguments that are always given. -/
  arguments : List String := []
  /-- Arguments that follow in fix mode. -/
  fixArguments : List String := []
  /-- Arguments that follow otherwise. -/
  checkArguments : List String := []
  environment : Bindings := .empty
  directory : Option String := none
  /-- Whether standard error goes through the noise patterns. -/
  capturesErrors : Bool := false
  /-- The exit code by which a tool says that a file needs formatting. -/
  needsFormatCode : Option Int := none
  deriving DecidableEq, Inhabited

/-- The arguments that depend on the mode. -/
def Tool.modeArguments (t : Tool) (fix : Bool) : List String :=
  if fix then t.fixArguments else t.checkArguments

/-- A category as it is written. -/
structure CategoryEntry where
  key : String
  aliases : List String := []
  description : String := ""
  roots : List String
  ignoreRoots : List String := []
  extensions : List String
  noise : List String := []
  mode : Mode := .batch
  tool : Tool
  fixer : Option Tool := none
  deriving DecidableEq, Inhabited

/-- All names a category goes by, its key first. -/
def CategoryEntry.names (c : CategoryEntry) : List String := c.key :: c.aliases

/-- The command that lists changed files. -/
structure ChangeCommand where
  program : String
  arguments : List String := []
  deriving DecidableEq, Inhabited

/-- The command of a registry that names none. -/
def ChangeCommand.standard : ChangeCommand :=
  { program := "git", arguments := ["diff", "--name-only", "--cached"] }

/-- A registry file. -/
structure RegistryFile where
  blacklist : List String := []
  vcs : ChangeCommand := .standard
  categories : List CategoryEntry := []
  deriving DecidableEq, Inhabited

end LintRun
