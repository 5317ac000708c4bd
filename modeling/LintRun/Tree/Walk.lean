import LintRun.Path.Set
import LintRun.Suffixes
import LintRun.Tree.Locate

/-!
# Walking a tree

The files of a root are what is reached from it through real directories.  A root that is
a link to a directory is entered; links below it are neither entered nor listed.  A root
that does not exist has no files.

A walk opens each directory by its path: the root as it is written, joined with the names that
lead on from it.  A path of `pathLimit` bytes or more cannot be opened, which is reported to the
log and to nobody else; the walk goes on beside such a directory and lists nothing in it.  Files
are only named, so the path of a file may be longer.

Models `enumerate` and `collect` of the walker.  A root is looked up before it is walked (by
`exists`), and so it is here, as `lstat?` and `stat?` have the limit too.
-/

namespace LintRun.Tree

/-- Whether a walk from a root opens the directory that some names lead to. -/
def opens (root : Path) (names : List Name) : Bool :=
  (root.through names).bytes.length < pathLimit

/-- The directory that a walk from a path enters. -/
def entered? (t : Tree) (root : Path) : Option Listing :=
  match t.lstat? root with
  | some (.directory inside) => some inside
  | some (.link _) =>
    match t.stat? root with
    | some (.directory inside) => some inside
    | _ => none
  | _ => none

/-- The files of a root, in normal form. -/
def filesFrom (t : Tree) (root : Path) : List Path :=
  match t.lstat? root with
  | some (.file _) => [root.normalize]
  | _ =>
    match t.entered? root with
    | some inside => (inside.files (opens root)).map fun names => (root.extend names).normalize
    | none => []

/-- The files of a root that pass a test. -/
def walk (t : Tree) (test : Path → Bool) (root : Path) : List Path :=
  (t.filesFrom root).filter test

/-- The files of several roots that pass a test, each once. -/
def collect (t : Tree) (test : Path → Bool) (roots : List Path) : PathSet :=
  .ofList (roots.flatMap (t.walk test))

end LintRun.Tree
