import LintRun.Text.Pieces
import LintRun.Text.Utf8

/-!
# Paths and their lexical normal form

A path is a byte string.  Its parts are what lies between slashes: a leading slash is the
part `root`, a leading `.` the part `here`, and any other `.`, doubled or trailing slash
carries no part.  Two paths with the same parts name the same place.

* `Path.normalize` drops `here` and lets `up` take back the name before it;
* `Path.resolve` reads a path from a root directory and normalizes the result;
* `Path.key` orders paths part by part: the root first, then names by their bytes.

Models `normalize` and `resolve`, and what they and the rest of the program use of the standard
library: the components of a path, `join`, `starts_with`, `file_name` and the order of paths.
-/

namespace LintRun

/-- A file name as the file system keeps it. -/
abbrev Name := List UInt8

/-- A path as it is spelled. -/
structure Path where
  bytes : List UInt8
  deriving DecidableEq, Inhabited

/-- One step of a path. -/
inductive Part
  | root
  | here
  | up
  | name (n : Name)
  deriving DecidableEq, Inhabited

namespace Path

/-- The byte between the parts of a path. -/
def slash : UInt8 := 47

/-- The byte that `.` and `..` are made of. -/
def dot : UInt8 := 46

/-! ## 1. Parts -/

/-- Whether a byte separates parts. -/
def isSlash (b : UInt8) : Bool := b == slash

/-- Whether a path starts at the root directory. -/
def isAbsolute (p : Path) : Bool := p.bytes.head? == some slash

/-- The part that a stretch between slashes stands for, when it is not the first. -/
def innerPart (piece : Name) : Option Part :=
  if piece = [] then none
  else if piece = [dot] then none
  else if piece = [dot, dot] then some .up
  else some (.name piece)

/-- What a path starts with: the root, the current directory, or neither. -/
def leadingPart (p : Path) : List Part :=
  if p.isAbsolute then [.root]
  else if (pieces isSlash p.bytes).head? = some [dot] then [.here]
  else []

/-- The steps of a path, in order. -/
def parts (p : Path) : List Part :=
  p.leadingPart ++ (pieces isSlash p.bytes).filterMap innerPart

/-- The last part, when it is a name. -/
def fileName? (p : Path) : Option Name :=
  match p.parts.getLast? with
  | some (.name n) => some n
  | _ => none

/-! ## 2. Writing parts -/

/-- How one part is spelled; the root is the empty text before the first slash. -/
def partBytes : Part → List UInt8
  | .root => []
  | .here => [dot]
  | .up => [dot, dot]
  | .name n => n

/-- The parts with one slash between each two. -/
def joinParts : List Part → List UInt8
  | [] => []
  | [q] => partBytes q
  | q :: qs => partBytes q ++ slash :: joinParts qs

/-- The path with the given parts; no parts at all is the current directory. -/
def ofParts : List Part → Path
  | [] => ⟨[dot]⟩
  | [.root] => ⟨[slash]⟩
  | qs => ⟨joinParts qs⟩

/-! ## 3. Normal form -/

/-- One step of normalizing, on the parts kept so far, latest first. -/
def settleStep (kept : List Part) : Part → List Part
  | .here => kept
  | .up =>
    match kept with
    | .name _ :: before => before
    | .root :: before => .root :: before
    | _ => .up :: kept
  | q => q :: kept

/-- The parts that are left when every `here` is dropped and every `up` that follows a name
takes the name back; above the root there is only the root. -/
def settle (qs : List Part) : List Part := (qs.foldl settleStep []).reverse

/-- The lexical normal form; the file system is not consulted. -/
def normalize (p : Path) : Path := ofParts (settle p.parts)

/-- `rel` read from the directory `root`; an absolute path stands for itself. -/
def join (root rel : Path) : Path :=
  if rel.isAbsolute then rel
  else if root.bytes = [] ∨ root.bytes.getLast? = some slash then ⟨root.bytes ++ rel.bytes⟩
  else ⟨root.bytes ++ slash :: rel.bytes⟩

/-- `rel` read from `root`, in normal form. -/
def resolve (root rel : Path) : Path := (root.join rel).normalize

/-- The path that leads on from `p` through some names. -/
def extend (p : Path) (names : List Name) : Path :=
  ⟨p.bytes ++ names.flatMap (slash :: ·)⟩

/-- The path by which one goes on from `p` name by name, each joined to the path before it. -/
def through (p : Path) (names : List Name) : Path := names.foldl (fun before n => before.join ⟨n⟩) p

/-- The path of a list of names below the root directory. -/
def ofNames (names : List Name) : Path := ofParts (.root :: names.map .name)

/-- The rest of `p` below `base`, when `base` leads there. -/
def below? (p base : Path) : Option Path :=
  if base.parts.isPrefixOf p.parts then
    some ⟨joinParts (p.parts.drop base.parts.length)⟩
  else none

/-! ## 4. Text and order -/

/-- The path that a text spells. -/
def ofString (s : String) : Path := ⟨Utf8.encode s⟩

/-- A path as text, U+FFFD where its bytes are not UTF-8. -/
def display (p : Path) : String := Utf8.decodeLossy p.bytes

/-- Where a part stands in the order of parts. -/
def partKey : Part → List Nat
  | .root => [0]
  | .here => [1]
  | .up => [2]
  | .name n => 3 :: n.map UInt8.toNat

/-- Where a path stands in the order of paths. -/
def key (p : Path) : List (List Nat) := p.parts.map partKey

theorem partKey_injective {a b : Part} (h : partKey a = partKey b) : a = b := by
  cases a <;> cases b <;> simp [partKey] at h
  case name.name m n => rw [List.map_inj_right (fun _ _ => UInt8.toNat.inj) |>.mp h]
  all_goals rfl

theorem key_eq_iff {p q : Path} : p.key = q.key ↔ p.parts = q.parts :=
  List.map_inj_right fun _ _ => partKey_injective

end Path

end LintRun
