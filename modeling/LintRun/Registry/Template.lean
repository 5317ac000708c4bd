import LintRun.Registry.File

/-!
# Templates

Programs, arguments, environment values and working directories may mention the source root
by a placeholder.  `fillIn` puts a text in place of every occurrence, from left to right; the
text put in is not looked at again.

Models `expand` of `ToolDefinition` and of `VcsDefinition`, and `working_dir`.
-/

namespace LintRun

/-- `value` in place of every occurrence of `mark`; the first `skipped` characters belong to
an occurrence that has been replaced. -/
def replaceAll (mark value : List Char) : Nat → List Char → List Char
  | _, [] => []
  | skipped + 1, _ :: cs => replaceAll mark value skipped cs
  | 0, c :: cs =>
    if mark.isPrefixOf (c :: cs) then value ++ replaceAll mark value (mark.length - 1) cs
    else c :: replaceAll mark value 0 cs

/-- The placeholder of the source root. -/
def placeholder : String := "\x7bsource_root\x7d"

/-- A template with the source root in place of its placeholder. -/
def fillIn (root template : String) : String :=
  String.ofList (replaceAll placeholder.toList root.toList 0 template.toList)

/-- A tool whose templates are filled in. -/
def Tool.fillIn (root : String) (t : Tool) : Tool where
  program := LintRun.fillIn root t.program
  arguments := t.arguments.map (LintRun.fillIn root)
  fixArguments := t.fixArguments.map (LintRun.fillIn root)
  checkArguments := t.checkArguments.map (LintRun.fillIn root)
  environment := t.environment.mapValues (LintRun.fillIn root)
  directory := t.directory.map (LintRun.fillIn root)
  capturesErrors := t.capturesErrors
  needsFormatCode := t.needsFormatCode

/-- A command whose templates are filled in. -/
def ChangeCommand.fillIn (root : String) (c : ChangeCommand) : ChangeCommand where
  program := LintRun.fillIn root c.program
  arguments := c.arguments.map (LintRun.fillIn root)

end LintRun
