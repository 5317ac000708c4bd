import LintRun.Path.Basic

/-!
# File trees

A directory is a list of entries: regular files, symbolic links and directories.  Links are
kept as they are written, so a tree is finite whatever its links point to.

Models the files that the program finds, as far as it asks about them: names, kinds, contents and
where links point.  The permission bits of a file matter to machines only, and a directory has
none: a tree is what the program is allowed to read.
-/

namespace LintRun

/-- A regular file. -/
structure File where
  content : List UInt8 := []
  /-- The permission bits. -/
  mode : Nat := 0o644
  /-- When the content was last changed, in nanoseconds after an agreed moment. -/
  modified : Int := 0
  deriving DecidableEq, Inhabited

/-- The permission bits by which somebody may start a file. -/
def File.startBits : Nat := 0o111

/-- Whether somebody may start a file. -/
def File.executable (f : File) : Bool := f.mode &&& startBits != 0

/-- A file that may be started. -/
def File.program (content : List UInt8) : File := { content, mode := 0o755 }

/-- The entries of a directory. -/
inductive Listing
  | empty
  | file (name : Name) (f : File) (rest : Listing)
  | link (name : Name) (target : Path) (rest : Listing)
  | directory (name : Name) (inside rest : Listing)
  deriving DecidableEq, Inhabited

/-- What is at one place of a tree. -/
inductive Node
  | file (f : File)
  | link (target : Path)
  | directory (inside : Listing)
  deriving DecidableEq, Inhabited

namespace Listing

/-- The entry with a name. -/
def find? (n : Name) : Listing → Option Node
  | .empty => none
  | .file m f rest => if m = n then some (.file f) else rest.find? n
  | .link m target rest => if m = n then some (.link target) else rest.find? n
  | .directory m inside rest => if m = n then some (.directory inside) else rest.find? n

/-- The entries without the one with a name. -/
def erase (n : Name) : Listing → Listing
  | .empty => .empty
  | .file m f rest => if m = n then rest else .file m f (rest.erase n)
  | .link m target rest => if m = n then rest else .link m target (rest.erase n)
  | .directory m inside rest => if m = n then rest else .directory m inside (rest.erase n)

/-- The entries with one more, in place of one with the same name. -/
def insert (n : Name) (node : Node) (l : Listing) : Listing :=
  match node with
  | .file f => .file n f (l.erase n)
  | .link target => .link n target (l.erase n)
  | .directory inside => .directory n inside (l.erase n)

/-- The entries of the directory with a name, none if there is no such directory. -/
def inside (n : Name) (l : Listing) : Listing :=
  match l.find? n with
  | some (.directory inside) => inside
  | _ => .empty

/-- Puts a node at the end of some names; directories on the way are made as needed. -/
def put (node : Node) : List Name → Listing → Listing
  | [], l => l
  | [n], l => l.insert n node
  | n :: ns, l => l.insert n (.directory (put node ns (l.inside n)))

/-- Makes the directories that some names lead through; what is there already stays. -/
def makeDirectories : List Name → Listing → Listing
  | [], l => l
  | n :: ns, l => l.insert n (.directory (makeDirectories ns (l.inside n)))

/-- Takes away what is at the end of some names. -/
def remove : List Name → Listing → Listing
  | [], l => l
  | [n], l => l.erase n
  | n :: ns, l =>
    match l.find? n with
    | some (.directory inside) => l.insert n (.directory (remove ns inside))
    | _ => l

/-- The names that lead to each regular file, through directories only, of which those are
entered that can be opened. -/
def files (opens : List Name → Bool) : Listing → List (List Name)
  | .empty => []
  | .file n _ rest => [n] :: rest.files opens
  | .link _ _ rest => rest.files opens
  | .directory n inside rest =>
    (if opens [n] then (inside.files fun names => opens (n :: names)).map (n :: ·) else []) ++
      rest.files opens

end Listing

end LintRun
