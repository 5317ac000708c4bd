import LintRun.Registry.Basic

/-!
# The catalogue of categories

What is printed about the categories of a registry when they are listed.

Models `print_categories` and `display_relative`.
-/

namespace LintRun

/-- A path as it is shown beside a base: what leads on from the base, if it is below it. -/
def relativeDisplay (p base : Path) : String :=
  match p.below? base with
  | some rest => if rest.bytes.isEmpty then "." else rest.display
  | none => p.display

/-- The lines about a category of a source root. -/
def Category.lines (c : Category) (sourceRoot : Path) : List String :=
  let aliases :=
    if c.aliases.isEmpty then "" else " (aliases: " ++ ", ".intercalate c.aliases ++ ")"
  let description := if c.description.isEmpty then [] else ["    " ++ c.description]
  [c.key ++ aliases] ++ description ++
    ["    roots: " ++ ", ".intercalate (c.roots.map (relativeDisplay · sourceRoot)),
      "    extensions: " ++ ", ".intercalate c.suffixes.extensions,
      "    tool: " ++ c.tool.program ++ " (" ++ c.mode.name ++ ")"]

/-- The lines about a registry. -/
def Registry.lines (r : Registry) : List String :=
  ("Source root: " ++ r.sourceRoot.display) :: r.categories.flatMap (·.lines r.sourceRoot)

end LintRun
