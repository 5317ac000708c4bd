import LintRun.Text.Octets
import LintRun.Tree.Locate

/-!
# Changing a tree

The operations by which programs change a tree.  Unlike the edits of a tree under
construction they refuse what the operating system refuses: a new entry needs its
directory, and what is in use for something else stays.

* `Tree.site` tells where an entry is or would be;
* `Tree.makeFolder`, `Tree.unlink`, `Tree.removeFolder`, `Tree.rename`, `Tree.symlink`
  and `Tree.writeFile` change one entry.

None of this is done by the program itself, which changes no file: it is what the utilities of a
machine do.
-/

namespace LintRun

namespace Path

/-- The path that characters spell. -/
def ofChars (cs : Chars) : Path := ⟨toOctets cs⟩

/-- The path of the directory that an entry is in, and the name of the entry. -/
def splitLast (p : Path) : Path × Name :=
  let back := p.bytes.reverse.dropWhile isSlash
  let name := (back.takeWhile (!isSlash ·)).reverse
  match back.dropWhile (!isSlash ·) with
  | [] => (⟨[dot]⟩, name)
  | before => (⟨before.reverse⟩, name)

/-- Whether a path ends in a slash. -/
def endsInSlash (p : Path) : Bool := p.bytes.getLast? == some slash

end Path

/-- Where an entry is or would be: the names that lead there, and what is there. -/
structure Site where
  names : List Name
  node? : Option Node
  deriving Inhabited

namespace Tree

/-! ## 1. Sites -/

/-- The names that say nothing about an entry. -/
def relativeNames : List Name := [[], [Path.dot], [Path.dot, Path.dot]]

/-- Where a path leads, through at most so many links at its end; only the last name may be
missing. -/
def siteWithin (followLast : Bool) : Nat → Tree → Path → Except OsError Site
  | 0, _, _ => .error .tooManyLinks
  | links + 1, t, p =>
    match t.locate followLast p with
    | .ok place => .ok ⟨place.names, some place.node⟩
    | .error .notFound => do
      let (parent, name) := p.splitLast
      if relativeNames.contains name then throw .notFound
      let place ← t.locate true parent
      match place.node with
      | .directory inside =>
        match inside.find? name with
        | some (.link target) =>
          if followLast then siteWithin followLast links { t with directory := place.names } target
          else throw .notFound
        | _ => return ⟨place.names ++ [name], none⟩
      | _ => throw .notDirectory
    | .error e => .error e

/-- Where a path leads; only its last name may be missing. -/
def site (t : Tree) (followLast : Bool) (p : Path) : Except OsError Site :=
  siteWithin followLast linkLimit t p

/-- The tree with something at the end of some names. -/
def place (t : Tree) (names : List Name) (node : Node) : Tree :=
  { t with root := t.root.put node names }

/-- The tree with nothing at the end of some names. -/
def clear (t : Tree) (names : List Name) : Tree := { t with root := t.root.remove names }

/-- What is at the end of some names that lead through directories only. -/
def nodeAt? (t : Tree) (names : List Name) : Option Node :=
  go (.directory t.root) names
where
  go (node : Node) : List Name → Option Node
    | [] => some node
    | n :: ns =>
      match node with
      | .directory inside =>
        match inside.find? n with
        | some next => go next ns
        | none => none
      | _ => none

/-! ## 2. Changes -/

/-- Makes a directory where nothing is. -/
def makeFolder (t : Tree) (p : Path) : Except OsError Tree := do
  let s ← t.site false p
  match s.node? with
  | some _ => throw .alreadyThere
  | none => return t.place s.names (.directory .empty)

/-- Makes a link where nothing is. -/
def symlink (t : Tree) (p goal : Path) : Except OsError Tree := do
  if goal.bytes.isEmpty then throw .notFound
  let s ← t.site false p
  match s.node? with
  | some _ => throw .alreadyThere
  | none => return t.place s.names (.link goal)

/-- Takes away an entry that is not a directory. -/
def unlink (t : Tree) (p : Path) : Except OsError Tree := do
  let place ← t.locate false p
  match place.node with
  | .directory _ => throw .isDirectory
  | _ => if p.endsInSlash then throw .notDirectory else return t.clear place.names

/-- Takes away an empty directory. -/
def removeFolder (t : Tree) (p : Path) : Except OsError Tree := do
  let place ← t.locate false p
  match t.lstat? ⟨(p.bytes.reverse.dropWhile Path.isSlash).reverse⟩ with
  | some (.link _) => throw .notDirectory
  | _ => pure ()
  match place.node with
  | .directory inside =>
    if p.splitLast.2 = [Path.dot] then throw .invalid
    else if place.names.isEmpty then throw .busy
    else if inside = .empty then return t.clear place.names
    else throw .notEmpty
  | _ => throw .notDirectory

/-- Moves an entry, in place of another one of its kind if there is one. -/
def rename (t : Tree) (source goal : Path) : Except OsError Tree := do
  let old ← t.locate false source
  let new ← t.site false goal
  if relativeNames.contains source.splitLast.2 then throw .busy
  if old.names = new.names then return t
  match old.node with
  | .directory _ =>
    if old.names.isPrefixOf new.names then throw .invalid
    match new.node? with
    | none => return (t.clear old.names).place new.names old.node
    | some (.directory .empty) => return (t.clear old.names).place new.names old.node
    | some (.directory _) => throw .notEmpty
    | some _ => throw .notDirectory
  | _ =>
    match new.node? with
    | some (.directory _) => throw .isDirectory
    | _ =>
      if goal.endsInSlash then throw .notDirectory
      else return (t.clear old.names).place new.names old.node

/-- Puts a file where a path leads, links followed. -/
def writeFile (t : Tree) (p : Path) (f : File) : Except OsError Tree := do
  let s ← t.site true p
  match s.node? with
  | some (.directory _) => throw .isDirectory
  | _ => if p.endsInSlash then throw .isDirectory else return t.place s.names (.file f)

/-- Changes the file that a path leads to. -/
def alterFile (t : Tree) (p : Path) (change : File → File) : Except OsError Tree := do
  let place ← t.locate true p
  match place.node with
  | .file f => return t.place place.names (.file (change f))
  | _ => return t

end Tree

end LintRun
