import LintRun.Path.Set

/-!
# Listings of changed files

A version control system lists changed files one to a line, relative to the source root.
Any mix of carriage returns and line feeds ends a line, and nothing is trimmed.

Models `parse_changed_paths`.
-/

namespace LintRun

/-- The paths that a listing names, read from the source root. -/
def changedPaths (root : Path) (listing : String) : PathSet :=
  PathSet.resolveAll root ((textLines listing).map Path.ofString)

end LintRun
