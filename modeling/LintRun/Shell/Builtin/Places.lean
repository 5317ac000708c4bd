import LintRun.Shell.Builtin.Basic
import LintRun.Text.Pieces
import LintRun.Tree.Change

/-!
# Places

The commands that go to another directory and tell the present one.  A directory is known by the
path that led there; `..` takes back the last name of that path, unless the path without links is
asked for.
-/

namespace LintRun.Shell

/-- Whether the last of the options `L` and `P` asks for the path without links. -/
def asksPhysical (options : List (Char × Chars)) : Bool :=
  (options.getLast?.map (·.1)) == some 'P'

/-- A path with names after another: `..` takes back a name. -/
def walkedNames (before : List Chars) : List Chars → List Chars
  | [] => before
  | ['.', '.'] :: rest => walkedNames before.dropLast rest
  | ['.'] :: rest => walkedNames before rest
  | [] :: rest => walkedNames before rest
  | n :: rest => walkedNames (before ++ [n]) rest

/-- The path that leads to a target from a directory; two slashes at its start are kept. -/
def walkedPath (current target : Chars) : Chars :=
  let isSlash (c : Char) : Bool := c == '/'
  let whole := if target.head? = some '/' then target else current ++ '/' :: target
  let isDouble := (whole.takeWhile isSlash).length = 2
  let names := walkedNames [] (pieces isSlash whole)
  (if isDouble then ['/', '/'] else ['/']) ++ ['/'].intercalate names

/-- The path of a directory without links. -/
def physicalPath (names : List Name) : Chars := ofOctets (Path.ofNames names).bytes

/-- Notes the directory that is reached by a path. -/
def arrive (names : List Name) (path : Chars) : Eval PUnit := do
  assign "OLDPWD".toList (← get).shownDirectory true
  modify fun s => { s with directory := names, shownDirectory := path }
  assign "PWD".toList path true

/-- Goes to a directory if that is possible. -/
def enter (isPhysical : Bool) (target : Chars) : Eval Bool := do
  let s ← get
  let path := walkedPath s.shownDirectory target
  match (← place).locate true (.ofChars (if isPhysical then target else path)) with
  | .ok ⟨names, .directory _⟩ =>
    arrive names (if isPhysical then physicalPath names else path)
    return true
  | _ => return false

/-- Whether a target is looked up without regard to the list of other starting places. -/
def isAnchored (target : Chars) : Bool :=
  match target with
  | '/' :: _ | ['.'] | ['.', '.'] | '.' :: '/' :: _ | '.' :: '.' :: '/' :: _ => true
  | _ => false

/-- Goes to another directory; it is named again if it is not where the target says. -/
def changeDirectory : Builtin := fun args => do
  let (options, words) ← optionsOf "LP" args
  let s ← get
  let isBack := words.head? = some ['-']
  let target := match words with
    | [] => (s.valueOf? "HOME".toList).getD []
    | ['-'] :: _ => (s.valueOf? "OLDPWD".toList).getD []
    | w :: _ => w
  let starts := match s.valueOf? "CDPATH".toList with
    | some list => if isAnchored target then [] else pieces (· == ':') list
    | none => []
  let wanted := if target.isEmpty then ['.'] else target
  let candidates := starts.map fun p =>
    (if p.isEmpty then wanted else p ++ '/' :: wanted, !p.isEmpty)
  let tree ← place
  let isFolder (c : Chars × Bool) : Bool :=
    match tree.stat? (.ofChars c.1) with
    | some (.directory _) => true
    | _ => false
  let (goal, isElsewhere) := (candidates.find? isFolder).getD (wanted, false)
  if ← enter (asksPhysical options) goal then
    if isBack || isElsewhere then saying (ended (← get).shownDirectory) else leaving 0
  else abandon ("can't cd to ".toList ++ target)

/-- Tells the present directory. -/
def tellDirectory : Builtin := fun args => do
  let (options, _) ← optionsOf "LP" args
  let s ← get
  saying (ended (if asksPhysical options then physicalPath s.directory else s.shownDirectory))

/-! ## Permission bits of new files -/

/-- Permission bits by letters. -/
def shownMask (mask : Nat) : Chars :=
  let letters (shift : Nat) : Chars :=
    [('r', 4), ('w', 2), ('x', 1)].filterMap fun (c, bit) =>
      if mask >>> shift &&& bit = 0 then some c else none
  "u=".toList ++ letters 6 ++ ",g=".toList ++ letters 3 ++ ",o=".toList ++ letters 0

/-- Four octal digits. -/
def octal (n : Nat) : Chars :=
  let ds := Nat.toDigits 8 n
  List.replicate (4 - ds.length) '0' ++ ds

/-- The bits of whom letters mean, one bit for each. -/
def classBits (letters : Chars) : Nat :=
  letters.foldl (fun n c =>
    n ||| (if c == 'u' then 0o100 else if c == 'g' then 0o010 else if c == 'o' then 0o001
      else 0o111)) 0

/-- The three bits that letters mean, given all bits from before. -/
def letterBits (before : Nat) (letters : Chars) : Nat :=
  letters.foldl (fun n c =>
    n ||| (match c with
      | 'r' => 4
      | 'w' => 2
      | 'x' => 1
      | 'u' => before >>> 6
      | 'g' => before >>> 3
      | 'o' => before
      | 'X' => if before &&& 0o111 != 0 then 1 else 0
      | _ => 0) &&& 7) 0

/-- The bits that a symbolic mode leads to from those before, if it is one.  A comma starts over
with those it is for. -/
def symbolicMode (before : Nat) : Nat → (classes bits : Nat) → Chars → Option Nat
  | 0, _, _, _ => none
  | _, _, bits, [] => some bits
  | n + 1, classes, bits, cs =>
    let whom := cs.takeWhile fun c => c == 'a' || c == 'u' || c == 'g' || c == 'o'
    let classes := classes ||| classBits whom
    let classes := if classes = 0 then 0o111 else classes
    match cs.drop whom.length with
    | op :: rest =>
      if op == '=' || op == '+' || op == '-' then
        let letters := rest.takeWhile "rwxugoXs".toList.contains
        let value := letterBits before letters * classes
        let bits := match op with
          | '-' => bits &&& (0o777 ^^^ value)
          | '=' => value ||| (bits &&& (0o777 ^^^ (classes * 7)))
          | _ => bits ||| value
        match rest.drop letters.length with
        | [] => some bits
        | ',' :: more => symbolicMode before n 0 bits more
        | more => symbolicMode before n classes bits more
      else none
    | [] => some bits

/-- Tells or sets the permission bits that new files do not get. -/
def setMask : Builtin := fun args => do
  let (options, words) ← optionsOf "S" args
  let mask := (← get).mask
  match words with
  | [] => saying (ended (if options.isEmpty then octal mask else shownMask mask))
  | w :: _ =>
    if (w.head?.map isDecimal).getD false then
      if w.all (isDigitOf 8) then
        modify fun s => { s with mask := numberOf 8 w &&& 0o777 }
        leaving 0
      else abandonNumber w
    else
      match symbolicMode (0o777 ^^^ mask) (w.length + 1) 0 (0o777 ^^^ mask) w with
      | some bits =>
        modify fun s => { s with mask := 0o777 ^^^ bits }
        leaving 0
      | none => abandon ("Illegal mode: ".toList ++ w)

end LintRun.Shell
