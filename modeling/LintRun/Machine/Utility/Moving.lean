import LintRun.Machine.Utility.Filing

/-!
# Utilities that move and copy

Programs that give what is at one path another place, a copy or a link.

* `Goal.ofOperands` tells where sources are to go;
* `moveOne`, `copyOne` and `linkOne` do it for one source.
-/

namespace LintRun.Utility

/-! ## 1. Where things go -/

/-- The last name of a path, without slashes after it. -/
def lastName (path : Chars) : Chars :=
  ((withoutSlashes path).reverse.takeWhile (· != '/')).reverse

/-- Each source with the path where it is to go. -/
abbrev Goals := List (Chars × Chars)

/-- Where sources go within a directory. -/
def goalsWithin (directory : Chars) (sources : List Chars) : Goals :=
  sources.map fun s => (s, within directory (lastName s))

/-- Where operands are to go: into a directory that is named or that comes last, or to the path
that comes last. -/
def goalsOf (t : Task) (fs : Flags) (throughLinks : Bool) : Step Goals := do
  let directoryAt (path : Chars) : Step (Except OsError Unit) := do
    match ← nodeAt t true path with
    | .ok (.directory _) =>
      let isLink := match ← nodeAt t false path with
        | .ok (.link _) => true
        | _ => false
      return if isLink && !throughLinks then .error .notDirectory else .ok ()
    | .ok _ => return .error .notDirectory
    | .error e => return .error e
  let refuse {α : Type} (what path : Chars) (e : OsError) : Step α := do
    complainOf t what path e
    Step.exit 1
  match fs.operands, fs.value? "t" with
  | [], _ => misuse t 1 "missing file operand".toList
  | sources, some directory =>
    match ← directoryAt directory with
    | .ok _ => return goalsWithin directory sources
    | .error e => refuse "target directory ".toList directory e
  | [source], none =>
    misuse t 1 ("missing destination file operand after ".toList ++ Quoting.quoted source)
  | a :: b :: more, none =>
    if fs.has "T" then
      match more with
      | [] => return [(a, b)]
      | extra :: _ => misuse t 1 ("extra operand ".toList ++ Quoting.quoted extra)
    else
      let last := (b :: more).getLastD b
      let sources := (a :: b :: more).dropLast
      match ← directoryAt last with
      | .ok _ => return goalsWithin last sources
      | .error e =>
        if more.isEmpty then return [(a, b)]
        else refuse "target ".toList last e

/-- Which of two things happens when something is there already. -/
inductive Overwriting
  | silently
  | onAgreement
  | never
  deriving DecidableEq

/-- What happens when something is there already, by the last flag about it. -/
def overwritingOf (fs : Flags) : Overwriting :=
  match fs.last? ["f", "i", "n"] with
  | some "i" => .onAgreement
  | some "n" => .never
  | _ => .silently

/-- What at a path stands in the way of something else, if anything does. -/
def hindrance? (source goal : Chars) (node goalNode : Node) : Option Chars :=
  match node, goalNode with
  | .directory _, .directory _ => none
  | .directory _, _ => some ("cannot overwrite non-directory ".toList ++ Quoting.quoted goal ++
      " with directory ".toList ++ Quoting.quoted source)
  | _, .directory _ => some ("cannot overwrite directory ".toList ++ Quoting.quoted goal ++
      " with non-directory".toList)
  | _, _ => none

/-- The names that a path leads to, if it leads anywhere. -/
def namesAt? (t : Task) (followLast : Bool) (path : Chars) : Step (Option (List Name)) := do
  return ((← Step.act t.tree).locate followLast (.ofChars path)).toOption.map (·.names)

/-- When the content at a path was changed. -/
def modifiedAt (node : Node) : Int :=
  match node with
  | .file f => f.modified
  | _ => 0

/-- Keeps what is at a path under another name. -/
def keepOld (t : Task) (fs : Flags) (goal : Chars) : Step PUnit := do
  if fs.has "b" || fs.has "backup" then
    let ending := (fs.value? "S").getD ['~']
    let _ ← Step.act (Act.attempt fun w =>
      w.rename t.directory (.ofChars goal) (.ofChars (goal ++ ending)))

/-! ## 2. Moving -/

/-- Moves what is at a path. -/
def moveOne (t : Task) (fs : Flags) (source goal : Chars) : Step Bool := do
  let fail (message : Chars) : Step Bool := do
    complain t message
    return false
  match ← nodeAt t false source with
  | .error e =>
    complainOf t "cannot stat ".toList source e
    return false
  | .ok node =>
    let there ← nodeAt t false goal
    match there with
    | .error e =>
      if e != .notFound then
        complainOf t "cannot stat ".toList goal e
        return false
    | .ok goalNode =>
      let isFolder := match node with
        | .directory _ => true
        | _ => false
      if !isFolder && (← namesAt? t false source) = (← namesAt? t false goal) then
        return ← fail (Quoting.quoted source ++ " and ".toList ++ Quoting.quoted goal ++
          " are the same file".toList)
      if fs.has "u" && decide (modifiedAt node ≤ modifiedAt goalNode) then return true
      match overwritingOf fs with
      | .never => return ← fail ("not replacing ".toList ++ Quoting.quoted goal)
      | .onAgreement =>
        if !(← agrees t ("overwrite ".toList ++ Quoting.quoted goal)) then return false
      | .silently => pure ()
      match hindrance? source goal node goalNode with
      | some message => return ← fail message
      | none => keepOld t fs goal
    match ← Step.act (Act.attempt fun w =>
        w.rename t.directory (.ofChars source) (.ofChars goal)) with
    | .ok _ =>
      if fs.has "v" then
        printLine t ("renamed ".toList ++ Quoting.quoted source ++ " -> ".toList ++
          Quoting.quoted goal)
      return true
    | .error .invalid =>
      fail ("cannot move ".toList ++ Quoting.quoted source ++
        " to a subdirectory of itself, ".toList ++ Quoting.quoted goal)
    | .error .notEmpty =>
      complainOf t "cannot overwrite ".toList goal .notEmpty
      return false
    | .error e =>
      fail ("cannot move ".toList ++ Quoting.quoted source ++ " to ".toList ++
        Quoting.quoted goal ++ ": ".toList ++ e.reason.toList)

/-- Moves files and directories. -/
def mv : Utility := fun t => do
  let fs ← flagsOf t 1 ["b", "backup[", "f,force", "i,interactive", "n,no-clobber",
    "S,suffix=", "t,target-directory=", "T,no-target-directory", "u,update", "v,verbose",
    "strip-trailing-slashes", "Z"]
  let goals ← goalsOf t fs true
  return codeOf (← forAll (fun (source, goal) => moveOne t fs source goal) goals)

/-! ## 3. Copying -/

/-- How things are copied. -/
structure Copying where
  isDeep : Bool
  /-- Whether links are copied as such. -/
  keepsLinks : Bool
  keepsMode : Bool
  tells : Bool
  /-- Whether symbolic links are made in place of copies. -/
  linksBack : Bool
  /-- Whether what cannot be written is taken away first. -/
  isForced : Bool

/-- Tells what was copied. -/
def tellCopy (t : Task) (c : Copying) (source goal : Chars) : Step PUnit := do
  if c.tells then
    printLine t (Quoting.quoted source ++ " -> ".toList ++ Quoting.quoted goal)

/-- Gives a path the content of a file. -/
def copyFile (t : Task) (c : Copying) (source goal : Chars) (f : File) : Step Bool := do
  let isNew := !(← nodeAt t true goal).toOption.isSome
  if isNew && (← nodeAt t false goal).toOption.isSome then
    complain t ("not writing through dangling symlink ".toList ++ Quoting.quoted goal)
    return false
  match ← Step.act (t.writeFile .write goal (ofOctets f.content)) with
  | .error e =>
    let e := if e = .isDirectory then .notDirectory else e
    complainOf t "cannot create regular file ".toList goal e
    return false
  | .ok _ =>
    let mode := if c.keepsMode then f.mode else t.newMode f.mode
    let _ ← Step.act (t.edit (·.alterFile (.ofChars goal) fun g => { g with
      mode := if isNew || c.keepsMode then mode else g.mode
      modified := if c.keepsMode then f.modified else g.modified }))
    tellCopy t c source goal
    return true

/-- Gives a path a link. -/
def copyLink (t : Task) (c : Copying) (source goal : Chars) (target : Path) : Step Bool := do
  let _ ← if (← nodeAt t false goal).toOption.isSome then unlinkAt t goal else pure (.ok ())
  match ← Step.act (t.edit (·.symlink (.ofChars goal) target)) with
  | .ok _ =>
    tellCopy t c source goal
    return true
  | .error e =>
    complainOf t "cannot create symbolic link ".toList goal e
    return false

/-- Copies what is at a path, with all that it holds. -/
def copyNode (t : Task) (c : Copying) : Nat → Chars → Chars → Node → Step Bool
  | depth, source, goal, node => do
    let there ← nodeAt t c.keepsLinks goal
    let there ← match there with
      | .ok (.link _) => nodeAt t true goal
      | r => pure r
    let fail (message : Chars) : Step Bool := do
      complain t message
      return false
    match there.toOption.bind (hindrance? source goal node) with
    | some message => fail message
    | none =>
      match node with
      | .file f => copyFile t c source goal f
      | .link target =>
        if c.keepsLinks then copyLink t c source goal target
        else
          match depth, ← nodeAt t true source with
          | depth + 1, .ok node => copyNode t c depth source goal node
          | _, .ok (.file f) => copyFile t c source goal f
          | _, .ok _ => return true
          | _, .error e =>
            complainOf t "cannot stat ".toList source e
            return false
      | .directory inside =>
        match depth with
        | 0 => return true
        | depth + 1 =>
          let made ← if there.toOption.isSome then pure (.ok ()) else makeFolderAt t goal
          match made with
          | .error e =>
            complainOf t "cannot create directory ".toList goal e
            return false
          | .ok _ =>
            if !there.toOption.isSome then tellCopy t c source goal
            forAll (fun (name, node) =>
              copyNode t c depth (within source name) (within goal name) node)
              (sortedEntries inside)

/-- Copies what is at one path to another. -/
def copyOne (t : Task) (fs : Flags) (c : Copying) (source goal : Chars) : Step Bool := do
  let fail (message : Chars) : Step Bool := do
    complain t message
    return false
  match ← nodeAt t (!c.keepsLinks) source with
  | .error e =>
    complainOf t "cannot stat ".toList source e
    return false
  | .ok node =>
    match node with
    | .directory _ =>
      if !c.isDeep then
        return ← fail ("-r not specified; omitting directory ".toList ++ Quoting.quoted source)
    | _ => pure ()
    let there ← nodeAt t true goal
    match there with
    | .error .notFound => pure ()
    | .error e =>
      complainOf t "cannot stat ".toList goal e
      return false
    | .ok goalNode =>
      let isFolder := match node with
        | .directory _ => true
        | _ => false
      if !isFolder && (← namesAt? t true source) = (← namesAt? t true goal) then
        return ← fail (Quoting.quoted source ++ " and ".toList ++ Quoting.quoted goal ++
          " are the same file".toList)
      if !isFolder then
        if fs.has "u" && decide (modifiedAt node ≤ modifiedAt goalNode) then return true
        match overwritingOf fs with
        | .never => return true
        | .onAgreement =>
          if !(← agrees t ("overwrite ".toList ++ Quoting.quoted goal)) then return false
        | .silently => pure ()
        match hindrance? source goal node goalNode with
        | some message => return ← fail message
        | none => keepOld t fs goal
    match node with
    | .directory inside =>
      let own := (← namesAt? t true source).getD []
      let new := ((← Step.act t.tree).site true (.ofChars goal)).toOption.map (·.names)
      if new.any own.isPrefixOf then
        fail ("cannot copy a directory, ".toList ++ Quoting.quoted source ++
          ", into itself, ".toList ++ Quoting.quoted goal)
      else copyNode t c (depthOf inside + 41) source goal node
    | node =>
      if c.linksBack then copyLink t c source goal (.ofChars source)
      else copyNode t c 41 source goal node

/-- Copies files, and directories on demand. -/
def cp : Utility := fun t => do
  let fs ← flagsOf t 1 ["a,archive", "b", "backup[", "d", "f,force", "H", "i,interactive",
    "l,link", "L,dereference", "n,no-clobber", "p", "P,no-dereference", "parents", "preserve[",
    "no-preserve=", "r,recursive", "R", "reflink[", "remove-destination", "s,symbolic-link",
    "S,suffix=", "sparse=", "t,target-directory=", "T,no-target-directory", "u,update",
    "v,verbose", "x,one-file-system", "strip-trailing-slashes", "attributes-only", "Z"]
  let isDeep := ["a", "r", "R"].any fs.has
  let c : Copying := {
    isDeep
    keepsLinks := match fs.last? ["a", "d", "P", "L", "H"] with
      | some "L" | some "H" => false
      | some _ => true
      | none => isDeep
    keepsMode := fs.has "a" || fs.has "p" || fs.has "preserve"
    tells := fs.has "v"
    linksBack := fs.has "s"
    isForced := fs.has "f" }
  let goals ← goalsOf t fs true
  let goals ← if fs.has "parents" then
      goals.mapM fun (source, goal) => do
        let directory := (parentPath? goal).getD ['.']
        let goal := within directory source
        let _ ← match parentPath? goal with
          | some parent => makeLeading t false parent (leadingPaths parent)
          | none => pure true
        return (source, goal)
    else pure goals
  if overwritingOf fs = .never then
    complain t ("warning: behavior of -n is non-portable and may change in future; " ++
      "use --update=none instead").toList
  go t fs c [] goals
where
  go (t : Task) (fs : Flags) (c : Copying) (done : List Chars) : Goals → Step Nat
    | [] => return 0
    | (source, goal) :: more => do
      let isFine ← if done.contains source then do
          complain t ("warning: source file ".toList ++ Quoting.quoted source ++
            " specified more than once".toList)
          pure true
        else copyOne t fs c source goal
      let code ← go t fs c (source :: done) more
      return if isFine then code else 1

/-- Copies files and sets their permission bits, or makes directories. -/
def install : Utility := fun t => do
  let fs ← flagsOf t 1 ["b", "c", "C,compare", "d,directory", "D", "g,group=", "m,mode=",
    "o,owner=", "p,preserve-timestamps", "s,strip", "S,suffix=", "t,target-directory=",
    "T,no-target-directory", "v,verbose"]
  let mode := (← modeFlag t fs 0).getD 0o755
  if fs.has "d" then
    if fs.operands.isEmpty then misuse t 1 "missing file operand".toList
    return codeOf (← forAll (fun path => makeLeading t (fs.has "v") path (leadingPaths path))
      fs.operands)
  else
    let goals ← goalsOf t fs true
    let c : Copying := {
      isDeep := false
      keepsLinks := false
      keepsMode := false
      tells := fs.has "v"
      linksBack := false
      isForced := false }
    return codeOf (← forAll (fun (source, goal) => do
      if fs.has "D" then
        let _ ← match parentPath? goal with
          | some parent => makeLeading t false parent (leadingPaths parent)
          | none => pure true
      let isFine ← match ← nodeAt t true source with
        | .ok (.directory _) =>
          complain t ("omitting directory ".toList ++ Quoting.quoted source)
          pure false
        | _ => copyOne t fs c source goal
      if isFine then
        let _ ← Step.act (t.edit (·.alterFile (.ofChars goal) fun f =>
          { f with mode }))
      return isFine) goals)

/-! ## 4. Links -/

/-- The way from one directory to a place, both given by names. -/
def relativeNames : List Name → List Name → List Chars
  | a :: as, b :: bs =>
    if a = b then relativeNames as bs
    else (a :: as).map (fun _ => ['.', '.']) ++ (b :: bs).map ofOctets
  | source, goal => source.map (fun _ => ['.', '.']) ++ goal.map ofOctets

/-- A path made of names. -/
def pathOfNames (names : List Chars) : Chars :=
  if names.isEmpty then ['.'] else ['/'].intercalate names

/-- Makes a link at a path. -/
def linkOne (t : Task) (fs : Flags) (source goal : Chars) : Step Bool := do
  let isSymbolic := fs.has "s" || fs.has "r"
  let fail (message : Chars) : Step Bool := do
    complain t message
    return false
  let node? := (← nodeAt t (fs.has "L") source).toOption
  match isSymbolic, ← nodeAt t (fs.has "L") source with
  | false, .error e =>
    complainOf t "failed to access ".toList source e
    return false
  | false, .ok (.directory _) =>
    fail (Quoting.ifNeeded source ++ ": hard link not allowed for directory".toList)
  | _, _ =>
    let there ← nodeAt t false goal
    match there with
    | .ok (.directory _) =>
      if fs.has "f" then
        return ← fail (Quoting.ifNeeded goal ++ ": cannot overwrite directory".toList)
    | .ok _ =>
      let isSame := !(fs.has "b") && (← namesAt? t false source) = (← namesAt? t false goal)
      if isSame && (fs.has "f" || fs.has "i") then
        return ← fail (Quoting.quoted source ++ " and ".toList ++ Quoting.quoted goal ++
          " are the same file".toList)
      let replaces ← if fs.has "i" then agrees t ("replace ".toList ++ Quoting.quoted goal)
        else pure true
      if !replaces then return false
      if fs.has "b" then keepOld t fs goal
      else if fs.has "f" || fs.has "i" then
        let _ ← unlinkAt t goal
    | .error _ => pure ()
    let tree ← Step.act t.tree
    let text := if fs.has "r" then
        let parent := (tree.site false (.ofChars goal)).toOption.map (·.names.dropLast)
        let names := (tree.site true (.ofChars source)).toOption.map (·.names)
        match parent, names with
        | some p, some n => pathOfNames (relativeNames p n)
        | _, _ => source
      else source
    let made ← if isSymbolic then
        Step.act (t.edit (·.symlink (.ofChars goal) (.ofChars text)))
      else
        Step.act (t.edit fun tree => do
          let s ← tree.site false (.ofChars goal)
          match s.node?, node? with
          | none, some node => return tree.place s.names node
          | none, none => throw .notFound
          | some _, _ => throw .alreadyThere)
    let arrow := (if isSymbolic then " -> " else " => ").toList
    match made with
    | .ok _ =>
      if fs.has "v" then printLine t (Quoting.quoted goal ++ arrow ++ Quoting.quoted text)
      return true
    | .error e =>
      let what := if isSymbolic then "failed to create symbolic link " else
        "failed to create hard link "
      let about := if e = .alreadyThere then [] else
        if isSymbolic && !text.isEmpty then [] else arrow ++ Quoting.quoted text
      complain t (what.toList ++ Quoting.quoted goal ++ about ++ ": ".toList ++ e.reason.toList)
      return false

/-- Makes links to files. -/
def ln : Utility := fun t => do
  let fs ← flagsOf t 1 ["b", "backup[", "d,directory", "F", "f,force", "i,interactive",
    "L,logical", "n,no-dereference", "P,physical", "r,relative", "s,symbolic", "S,suffix=",
    "t,target-directory=", "T,no-target-directory", "v,verbose"]
  let goals ← match fs.operands, fs.value? "t", fs.has "T" with
    | [source], none, false => pure [(source, within ['.'] (lastName source))]
    | _, _, _ => goalsOf t fs (!fs.has "n")
  let shown (g : Chars) : Chars := if "./".toList.isPrefixOf g && fs.operands.length = 1 then
    g.drop 2 else g
  return codeOf (← forAll (fun (source, goal) => linkOne t fs source (shown goal)) goals)

/-- Makes one link to a file. -/
def link : Utility := fun t => do
  let fs ← flagsOf t 1 []
  match fs.operands with
  | [] => missingOperand t 1
  | [a] => misuse t 1 ("missing operand after ".toList ++ Quoting.plainly a)
  | [a, b] =>
    let made ← Step.act (t.edit fun tree => do
      let old ← tree.locate false (.ofChars a)
      let s ← tree.site false (.ofChars b)
      match s.node?, old.node with
      | some _, _ => throw .alreadyThere
      | none, .directory _ => throw .notPermitted
      | none, node => return tree.place s.names node)
    match made with
    | .ok _ => return 0
    | .error e =>
      complain t ("cannot create link ".toList ++ Quoting.quoted b ++ " to ".toList ++
        Quoting.quoted a ++ ": ".toList ++ e.reason.toList)
      return 1
  | _ :: _ :: c :: _ => extraOperand t 1 c

end LintRun.Utility
