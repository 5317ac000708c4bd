import LintRun.Tree.Basic

/-!
# Finding places in a tree

A path is followed step by step from the root or the working directory.  Links in the
middle of a path are always followed, a link at its end on demand, and at most
`linkLimit` of them altogether.

* `Tree.stat?` and `Tree.lstat?` tell what is at a path, following a last link or not;
* `Tree.canonical?` gives the path without links, `.` and `..`.

What is too long is not looked up.  The operating system limits the path that it is given and
every name in it, and not the place that they lead to.  The canonical path is found from outside,
by reading a link at each place on the way by the place's own path; so it may be asked for of a
path of any length, but each place on the way must have a path within the limit.

Models `exists`, `is_file` and `canonicalize` of the standard library, as the operating system
answers them.
-/

namespace LintRun

/-- Why the operating system refuses an operation. -/
inductive OsError
  | notPermitted
  | notFound
  | badExecutable
  | badChannel
  | permissionDenied
  | busy
  | alreadyThere
  | notDirectory
  | isDirectory
  | invalid
  | brokenPipe
  | nameTooLong
  | notEmpty
  | tooManyLinks
  | nulByte (what : String)
  | notText
  deriving DecidableEq, Inhabited

namespace OsError

/-- The reason that an error gives. -/
def reason : OsError → String
  | .notPermitted => "Operation not permitted"
  | .notFound => "No such file or directory"
  | .badExecutable => "Exec format error"
  | .badChannel => "Bad file descriptor"
  | .permissionDenied => "Permission denied"
  | .busy => "Device or resource busy"
  | .alreadyThere => "File exists"
  | .notDirectory => "Not a directory"
  | .isDirectory => "Is a directory"
  | .invalid => "Invalid argument"
  | .brokenPipe => "Broken pipe"
  | .nameTooLong => "File name too long"
  | .notEmpty => "Directory not empty"
  | .tooManyLinks => "Too many levels of symbolic links"
  | .nulByte what => what
  | .notText => "stream did not contain valid UTF-8"

/-- The number of an error, if the operating system gives it one. -/
def number? : OsError → Option Nat
  | .notPermitted => some 1
  | .notFound => some 2
  | .badExecutable => some 8
  | .badChannel => some 9
  | .permissionDenied => some 13
  | .busy => some 16
  | .alreadyThere => some 17
  | .notDirectory => some 20
  | .isDirectory => some 21
  | .invalid => some 22
  | .brokenPipe => some 32
  | .nameTooLong => some 36
  | .notEmpty => some 39
  | .tooManyLinks => some 40
  | .nulByte _ => none
  | .notText => none

/-- The wording of an error. -/
def message (e : OsError) : String :=
  match e.number? with
  | some n => e.reason ++ " (os error " ++ toString n ++ ")"
  | none => e.reason

end OsError

/-- A file tree seen from a working directory. -/
structure Tree where
  root : Listing
  /-- The names that lead to the working directory. -/
  directory : List Name := []
  deriving Inhabited

/-- A place in a tree: the names that lead there, without links, and what is there. -/
structure Place where
  names : List Name
  node : Node
  deriving Inhabited

/-! ## 1. Steps -/

/-- The steps that a path prescribes; a slash at the end asks for a directory. -/
def Path.steps (p : Path) : List Part :=
  let stretches := pieces isSlash p.bytes
  (if p.isAbsolute then [.root] else []) ++
    stretches.filterMap (fun s =>
      if s = [] then none
      else if s = [dot] then some .here
      else if s = [dot, dot] then some .up
      else some (.name s)) ++
    (if p.bytes.getLast? = some slash then [.here] else [])

/-- The directories between the root and a place, nearest first, each with its name. -/
abbrev Trail := List (Name × Listing)

namespace Trail

/-- The names that lead to the end of a trail. -/
def names (t : Trail) : List Name := (t.map (·.1)).reverse

/-- The directory at the end of a trail. -/
def listing (root : Listing) (t : Trail) : Listing :=
  match t with
  | [] => root
  | (_, l) :: _ => l

end Trail

/-- The longest file name. -/
def nameLimit : Nat := 255

/-- The length from which on a path is too long to be looked up as it is written. -/
def pathLimit : Nat := 4096

/-- How many links may be followed on one path. -/
def linkLimit : Nat := 40

/-! ## 2. Following steps -/

/-- A name is too long for a file. -/
def longName (_ : Trail) (n : Name) : Bool := nameLimit < n.length

/-- A name is too long for a file, or the place that it leads to from a trail has a path that is
too long. -/
def longPlace (trail : Trail) (n : Name) : Bool :=
  longName trail n || pathLimit ≤ (Path.ofNames (trail.names ++ [n])).bytes.length

section

variable (root : Listing) (followLast : Bool) (tooLong : Trail → Name → Bool)
variable (onLink : Trail → List Part → Except OsError Place)

/-- Follows steps up to the first link, which is left to `onLink` together with the steps
that its target prescribes. -/
def descend : Trail → List Part → Except OsError Place
  | trail, [] => .ok ⟨trail.names, .directory (trail.listing root)⟩
  | _, .root :: steps => descend [] steps
  | trail, .here :: steps => descend trail steps
  | trail, .up :: steps => descend trail.tail steps
  | trail, .name n :: steps =>
    if tooLong trail n then .error .nameTooLong
    else
      match (trail.listing root).find? n with
      | none => .error .notFound
      | some (.directory inside) => descend ((n, inside) :: trail) steps
      | some (.file f) =>
        if steps.isEmpty then .ok ⟨trail.names ++ [n], .file f⟩ else .error .notDirectory
      | some (.link target) =>
        if steps.isEmpty && !followLast then .ok ⟨trail.names ++ [n], .link target⟩
        else if target.bytes.isEmpty then .error .notFound
        else onLink trail (target.steps ++ steps)

end

/-- Follows steps through at most so many links. -/
def followSteps (root : Listing) (followLast : Bool) (tooLong : Trail → Name → Bool) :
    Nat → Trail → List Part → Except OsError Place
  | 0 => descend root followLast tooLong fun _ _ => .error .tooManyLinks
  | links + 1 => descend root followLast tooLong (followSteps root followLast tooLong links)

/-! ## 3. Trees -/

namespace Tree

/-- The trail of the working directory. -/
def trail (t : Tree) : Trail :=
  (t.directory.foldl (fun (trail, l) n => ((n, l.inside n) :: trail, l.inside n))
    (([] : Trail), t.root)).1

/-- The place that a path leads to, however long the path is. -/
def trace (t : Tree) (followLast : Bool) (tooLong : Trail → Name → Bool) (p : Path) :
    Except OsError Place :=
  if p.bytes.isEmpty then .error .notFound
  else if p.bytes.contains 0 then
    .error (.nulByte "file name contained an unexpected NUL byte")
  else followSteps t.root followLast tooLong linkLimit t.trail p.steps

/-- The place that a path leads to. -/
def locate (t : Tree) (followLast : Bool) (p : Path) : Except OsError Place :=
  if p.bytes.length < pathLimit || p.bytes.contains 0 then t.trace followLast longName p
  else .error .nameTooLong

/-- What is at a path, a last link followed. -/
def stat? (t : Tree) (p : Path) : Option Node := (t.locate true p).toOption.map (·.node)

/-- What is at a path, a last link not followed. -/
def lstat? (t : Tree) (p : Path) : Option Node := (t.locate false p).toOption.map (·.node)

/-- Whether a path leads anywhere. -/
def has (t : Tree) (p : Path) : Bool := (t.stat? p).isSome

/-- Whether a path leads to a regular file. -/
def isFile (t : Tree) (p : Path) : Bool :=
  match t.stat? p with
  | some (.file _) => true
  | _ => false

/-- The path of the same place without links, `.` and `..`. -/
def canonical? (t : Tree) (p : Path) : Except OsError Path :=
  (t.trace true longPlace p).map fun place => Path.ofNames place.names

/-- The bytes of a file. -/
def read (t : Tree) (p : Path) : Except OsError (List UInt8) := do
  match (← t.locate true p).node with
  | .file f => return f.content
  | .directory _ => .error .isDirectory
  | .link _ => .error .tooManyLinks

/-- The text of a file. -/
def readText (t : Tree) (p : Path) : Except OsError String := do
  match Utf8.decode? (← t.read p) with
  | some s => return s
  | none => .error .notText

/-- The tree seen from another directory. -/
def enter (t : Tree) (p : Path) : Except OsError Tree := do
  let place ← t.locate true p
  match place.node with
  | .directory _ => return { t with directory := place.names }
  | _ => .error .notDirectory

end Tree

end LintRun
