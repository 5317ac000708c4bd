import LintRun.Machine.Utility.Moving

/-!
# Utilities about paths

Programs that take paths apart, follow links, and find names for new files.
-/

namespace LintRun.Utility

/-! ## 1. Parts of paths -/

/-- The last part of a path. -/
def baseName (path : Chars) : Chars :=
  let path := if !path.isEmpty && path.all (· == '/') then ['/'] else path
  if path = ['/'] then path else lastName path

/-- The path of the directory that a path is in. -/
def directoryName (path : Chars) : Chars :=
  match parentPath? path with
  | some p => p
  | none => if path.head? = some '/' then ['/'] else ['.']

/-- A name without an ending, unless it is nothing else. -/
def withoutEnding (ending name : Chars) : Chars :=
  let n := name.length - ending.length
  if ending.length < name.length && name.drop n = ending then name.take n else name

/-- Writes the last part of a path. -/
def basename : Utility := fun t => do
  let fs ← flagsOf t 1 ["a,multiple", "s,suffix=", "z,zero"] false
  let many := fs.has "a" || fs.has "s"
  let (paths, ending) ← match fs.operands with
    | [] => missingOperand t 1
    | paths =>
      if many then pure (paths, (fs.value? "s").getD [])
      else
        match paths with
        | _ :: _ :: extra :: _ => extraOperand t 1 extra
        | [path, ending] => pure ([path], ending)
        | paths => pure (paths, [])
  for path in paths do
    print t (withoutEnding ending (baseName path) ++ [lineEndOf fs])
  return 0
where
  lineEndOf (fs : Flags) : Char := if fs.has "z" then '\x00' else '\n'

/-- Writes the paths of the directories that paths are in. -/
def dirname : Utility := fun t => do
  let fs ← flagsOf t 1 ["z,zero"]
  if fs.operands.isEmpty then missingOperand t 1
  for path in fs.operands do
    print t (directoryName path ++ [if fs.has "z" then '\x00' else '\n'])
  return 0

/-! ## 2. Paths without links -/

/-- Which names of a path have to be there. -/
inductive Presence
  | all
  | allButLast
  | none
  deriving DecidableEq

/-- An absolute path of names. -/
def absolutePath (names : List Name) : Chars :=
  if names.isEmpty then ['/'] else names.flatMap fun n => '/' :: ofOctets n

/-- The names that a path leads to as far as it leads anywhere, and as they are written from
there. -/
def namesTowards (tree : Tree) (names : List Name) : List Part → List Name
  | [] => names
  | .root :: ps => namesTowards tree [] ps
  | .here :: ps => namesTowards tree names ps
  | .up :: ps => namesTowards tree names.dropLast ps
  | .name n :: ps =>
    match Tree.locate ⟨tree.root, names⟩ true ⟨n⟩ with
    | .ok place => namesTowards tree place.names ps
    | .error _ => namesTowards tree (names ++ [n]) ps

/-- The path without links of what a path leads to. -/
def settledPath (tree : Tree) (p : Presence) (path : Chars) : Except OsError Chars :=
  let parsed : Path := .ofChars path
  match p with
  | .all => (tree.locate true parsed).map fun place => absolutePath place.names
  | .allButLast =>
    let bare : Path := .ofChars (withoutSlashes path)
    match tree.locate true parsed with
    | .ok place => .ok (absolutePath place.names)
    | .error .notFound => (tree.site true bare).map fun s => absolutePath s.names
    | .error e => .error e
  | .none =>
    if path.isEmpty then .error .notFound
    else .ok (absolutePath (namesTowards tree tree.directory parsed.steps))

/-- The presence that flags ask for. -/
def presenceOf (fs : Flags) (usual : Option Presence) : Option Presence :=
  match fs.last? ["e", "m", "f", "E"] with
  | some "e" => some .all
  | some "m" => some .none
  | some _ => some .allButLast
  | none => usual

/-- Writes where links point to, or paths without links. -/
def readlink : Utility := fun t => do
  let fs ← flagsOf t 1 ["e,canonicalize-existing", "f,canonicalize", "m,canonicalize-missing",
    "n,no-newline", "q,quiet", "s,silent", "v,verbose", "z,zero"]
  if fs.operands.isEmpty then missingOperand t 1
  let isAlone := fs.operands.length = 1
  if fs.has "n" && !isAlone then
    complain t "ignoring --no-newline with multiple arguments".toList
  let mark := if fs.has "n" && isAlone then [] else [if fs.has "z" then '\x00' else '\n']
  let tree ← Step.act t.tree
  let isFine ← forAll (fun path => do
    let found : Except OsError Chars := match presenceOf fs none with
      | some p => settledPath tree p path
      | none => do
        match (← tree.locate false (.ofChars path)).node with
        | .link target => return ofOctets target.bytes
        | _ => throw .invalid
    match found with
    | .ok text =>
      print t (text ++ mark)
      return true
    | .error e =>
      if fs.last? ["v", "q", "s"] = some "v" then complainNamed t path e
      return false) fs.operands
  return codeOf isFine

/-- The names of a path as they are spelled. -/
def spelledPath (tree : Tree) (path : Chars) : Chars :=
  let parts := Path.steps (.ofChars path)
  absolutePath (parts.foldl (fun names p =>
    match p with
    | .root => []
    | .here => names
    | .up => names.dropLast
    | .name n => names ++ [n]) tree.directory)

/-- Writes paths without links. -/
def realpath : Utility := fun t => do
  let fs ← flagsOf t 1 ["e,canonicalize-existing", "m,canonicalize-missing", "L,logical",
    "P,physical", "q,quiet", "relative-to=", "relative-base=", "s,strip", "s,no-symlinks",
    "z,zero", "E,canonicalize"]
  if fs.operands.isEmpty then missingOperand t 1
  let tree ← Step.act t.tree
  let p := (presenceOf fs (some .allButLast)).getD .allButLast
  let settle (path : Chars) : Except OsError Chars :=
    if fs.has "s" && !path.isEmpty then .ok (spelledPath tree path) else settledPath tree p path
  let base (key : String) : Step (Option Chars) := do
    match fs.value? key with
    | none => return none
    | some d =>
      match settle d with
      | .ok path => return some path
      | .error e =>
        complainNamed t d e
        Step.exit 1
  let to? ← base "relative-to"
  let base? ← base "relative-base"
  let namesIn (path : Chars) : List Name := (Path.steps (.ofChars path)).filterMap fun p =>
    match p with
    | .name n => some n
    | _ => none
  let shown (path : Chars) : Chars :=
    let isBelow := base?.all fun b => (namesIn b).isPrefixOf (namesIn path)
    match to?.or base? with
    | some b =>
      if isBelow then pathOfNames (relativeNames (namesIn b) (namesIn path)) else path
    | none => path
  let isFine ← forAll (fun path => do
    match settle path with
    | .ok text =>
      print t (shown text ++ [if fs.has "z" then '\x00' else '\n'])
      return true
    | .error e =>
      if !fs.has "q" then complainNamed t path e
      return false) fs.operands
  return codeOf isFine

/-! ## 3. New names -/

/-- The characters of new names. -/
def nameLetters : Chars := "abcdefghijklmnopqrstuvwxyz0123456789".toList

/-- So many characters for a number. -/
def lettersFor : Nat → Nat → Chars
  | 0, _ => []
  | n + 1, k => nameLetters.getD (k % 36) 'a' :: lettersFor n (k / 36 + k % 36 * 7 + n)

/-- A template with its last marks replaced, if it has enough of them. -/
def filledTemplate? (template ending : Chars) (k : Nat) : Option Chars :=
  let body := withoutEnding ending template
  let marks := (body.reverse.takeWhile (· == 'X')).length
  if marks < 3 then none
  else some (body.take (body.length - marks) ++ lettersFor marks (k * 7919 + 12345) ++ ending)

/-- Makes a file or a directory with a new name, and writes its path. -/
def mktemp : Utility := fun t => do
  let fs ← flagsOf t 1 ["d,directory", "u,dry-run", "q,quiet", "p=", "tmpdir[", "suffix=", "t"]
  match fs.operands[1]? with
  | some _ => misuse t 1 "too many templates".toList
  | none => pure ()
  let template := fs.operands.headD "tmp.XXXXXXXXXX".toList
  let places := (t.valueOf? "TMPDIR".toList).getD "/tmp".toList
  let places := if places.isEmpty then "/tmp".toList else places
  let directory? : Option Chars :=
    if fs.has "p" || fs.has "tmpdir" then
      let d := ((fs.value? "p").or (fs.value? "tmpdir")).getD []
      some (if d.isEmpty then places else d)
    else if fs.has "t" || fs.operands.isEmpty then some places else none
  let ending := match fs.value? "suffix" with
    | some s => s
    | none => (template.reverse.takeWhile (· != 'X')).reverse
  let template := if (fs.value? "suffix").isSome then template ++ ending else template
  let path (k : Nat) : Option Chars := (filledTemplate? template ending k).map fun name =>
    match directory? with
    | some d => within d name
    | none => name
  if (path 0).isNone then
    complain t ("too few X's in template ".toList ++ Quoting.quoted template)
    Step.exit 1
  let tree ← Step.act t.tree
  let free? := (List.range 64).findSome? fun k =>
    (path k).bind fun p => if (tree.lstat? (.ofChars p)).isNone then some p else none
  let p := free?.getD template
  let isFolder := fs.has "d"
  let made : Except OsError Unit ← if fs.has "u" then pure (.ok ())
    else if isFolder then makeFolderAt t p
    else do
      let r ← Step.act (t.openFile .create p)
      let _ ← Step.act (t.edit (·.alterFile (.ofChars p) fun f => { f with mode := 0o600 }))
      pure (r.map fun _ => ())
  match made with
  | .ok _ =>
    printLine t p
    return 0
  | .error e =>
    let shownTemplate := match directory? with
      | some d => within d template
      | none => template
    if !fs.has "q" then
      complain t ((if isFolder then "failed to create directory via template "
        else "failed to create file via template ").toList ++ Quoting.quoted shownTemplate ++
        ": ".toList ++ e.reason.toList)
    return 1

end LintRun.Utility
