import LintRun.Tree.Locate

/-!
# Editing a tree

Files, links and directories are made at the end of a path; missing directories on the way
are made too.  Links on the way are followed.

A tree is built this way from the description of a machine or of a test.
-/

namespace LintRun.Tree

/-- The names without links of what names lead to, last name first; what does not exist keeps
its name. -/
def settledNames (t : Tree) : List Name → List Name
  | [] => []
  | n :: before =>
    match t.locate true (.ofNames (n :: before).reverse) with
    | .ok place => place.names
    | .error _ => settledNames t before ++ [n]

/-- The names that a path spells, last name first. -/
def spelledNames (t : Tree) (p : Path) : List Name :=
  ((Path.ofNames t.directory).resolve p).parts.reverse.filterMap fun
    | .name n => some n
    | _ => none

/-- Where a path leads, a last link followed. -/
def target (t : Tree) (p : Path) : List Name := t.settledNames (t.spelledNames p)

/-- Where a path leads, a last link not followed. -/
def spot (t : Tree) (p : Path) : List Name :=
  match t.spelledNames p with
  | [] => []
  | n :: before => t.settledNames before ++ [n]

/-- Writes a file. -/
def write (t : Tree) (p : Path) (f : File) : Tree :=
  { t with root := t.root.put (.file f) (t.target p) }

/-- Makes a directory; one that is there already stays. -/
def makeDirectory (t : Tree) (p : Path) : Tree :=
  { t with root := t.root.makeDirectories (t.target p) }

/-- Makes a link. -/
def makeLink (t : Tree) (p goal : Path) : Tree :=
  { t with root := t.root.put (.link goal) (t.spot p) }

/-- Takes away a file, a link, or a directory with all it holds. -/
def remove (t : Tree) (p : Path) : Tree := { t with root := t.root.remove (t.spot p) }

end LintRun.Tree
