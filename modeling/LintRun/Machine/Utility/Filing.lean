import LintRun.Machine.Mode
import LintRun.Machine.Utility.Basic

/-!
# Utilities for directories and entries

Programs that make and take away directories and files, and change what is noted about them.

* `entriesWithin` lists what a directory holds, in the order in which it can be taken away;
* `removeEntry` and `makeFolder` change one entry.
-/

namespace LintRun.Utility

/-! ## 1. Entries -/

/-- What is at a path, a last link followed or not. -/
def nodeAt (t : Task) (followLast : Bool) (path : Chars) : Step (Except OsError Node) :=
  Step.act (t.look followLast path)

/-- Takes away an entry that is not a directory. -/
def unlinkAt (t : Task) (path : Chars) : Step (Except OsError Unit) :=
  Step.act (Act.attempt fun w => w.unlink t.directory (.ofChars path))

/-- Takes away an empty directory. -/
def removeFolderAt (t : Task) (path : Chars) : Step (Except OsError Unit) :=
  Step.act (t.edit (·.removeFolder (.ofChars path)))

/-- Makes a directory. -/
def makeFolderAt (t : Task) (path : Chars) : Step (Except OsError Unit) :=
  Step.act (t.edit (·.makeFolder (.ofChars path)))

/-- A path within a directory. -/
def within (directory name : Chars) : Chars :=
  if directory.getLast? = some '/' then directory ++ name else directory ++ '/' :: name

/-- The names of a listing in order, each with what it leads to. -/
def sortedEntries (l : Listing) : List (Chars × Node) :=
  (collect l).mergeSort fun a b => !decide (b.1 < a.1)
where
  collect : Listing → List (Chars × Node)
    | .empty => []
    | .file n f rest => (ofOctets n, .file f) :: collect rest
    | .link n target rest => (ofOctets n, .link target) :: collect rest
    | .directory n inside rest => (ofOctets n, .directory inside) :: collect rest

/-- How many directories are within each other in a listing. -/
def depthOf : Listing → Nat
  | .empty => 0
  | .file _ _ rest | .link _ _ rest => depthOf rest
  | .directory _ inside rest => max (depthOf inside + 1) (depthOf rest)

/-- The paths within a directory, each with what it leads to; directories come after what they
hold, or before it. -/
def entriesWithin (foldersFirst : Bool) : Nat → Chars → Listing → List (Chars × Node)
  | 0, _, _ => []
  | depth + 1, path, l =>
    (sortedEntries l).flatMap fun (name, node) =>
      let here := within path name
      match node with
      | .directory inside =>
        let held := entriesWithin foldersFirst depth here inside
        if foldersFirst then (here, node) :: held else held ++ [(here, node)]
      | node => [(here, node)]

/-- Reads a line from standard input. -/
def takeLine (t : Task) : Act Chars :=
  match t.streams.lookup 0 with
  | none => pure []
  | some k => fun w =>
    match w.ahead k with
    | .error _ => ([], w)
    | .ok text =>
      let line := text.takeWhile (· != '\n')
      (line, w.skip k (line.length + 1))

/-- Whether the answer to a question is yes. -/
def agrees (t : Task) (question : Chars) : Step Bool := do
  Step.act (t.put 2 (t.title ++ ": ".toList ++ question ++ "? ".toList))
  let answer ← Step.act (takeLine t)
  return answer.head? = some 'y' || answer.head? = some 'Y'

/-- What an entry is, in words. -/
def kindOf (node : Node) : String :=
  match node with
  | .file f => if f.content.isEmpty then "regular empty file" else "regular file"
  | .link _ => "symbolic link"
  | .directory _ => "directory"

/-! ## 2. Directories -/

/-- The permission bits that a flag asks for. -/
def modeFlag (t : Task) (fs : Flags) (start : Nat) : Step (Option Nat) := do
  match fs.value? "m" with
  | none => return none
  | some w =>
    match ModeChange.read? w with
    | some ms => return some (ModeChange.applyAll t.mask true start ms)
    | none =>
      complain t ("invalid mode ".toList ++ Quoting.plainly w)
      Step.exit 1

/-- The paths that lead to a path, itself included, shortest first. -/
def leadingPaths (path : Chars) : List Chars :=
  go [] path
where
  go (before : Chars) : Chars → List Chars
    | [] => if before.isEmpty || before.head? = some '/' then [] else [before.reverse]
    | '/' :: cs =>
      if before.isEmpty || before.head? = some '/' then go ('/' :: before) cs
      else before.reverse :: go ('/' :: before) cs
    | c :: cs => go (c :: before) cs

/-- Makes the directories of a path that are missing. -/
def makeLeading (t : Task) (tells : Bool) (path : Chars) : List Chars → Step Bool
  | [] => return true
  | p :: more => do
    match ← makeFolderAt t p with
    | .ok _ =>
      if tells then printLine t (t.title ++ ": created directory ".toList ++ Quoting.quoted p)
      makeLeading t tells path more
    | .error e =>
      match ← nodeAt t true p with
      | .ok (.directory _) => makeLeading t tells path more
      | _ =>
        let e := if e = .alreadyThere && !more.isEmpty &&
            (← nodeAt t true p).toOption.isSome then .notDirectory else e
        complainOf t "cannot create directory ".toList p e
        return false

/-- Makes directories. -/
def mkdir : Utility := fun t => do
  let fs ← flagsOf t 1 ["m,mode=", "p,parents", "v,verbose", "Z", "context["]
  if fs.operands.isEmpty then missingOperand t 1
  let _ ← modeFlag t fs 0o777
  let isFine ← forAll (fun path => do
    if fs.has "p" && !path.isEmpty then
      makeLeading t (fs.has "v") path (leadingPaths path)
    else
      match ← makeFolderAt t path with
      | .ok _ =>
        if fs.has "v" then
          printLine t (t.title ++ ": created directory ".toList ++ Quoting.quoted path)
        return true
      | .error e =>
        complainOf t "cannot create directory ".toList path e
        return false) fs.operands
  return codeOf isFine

/-- A path without slashes at its end. -/
def withoutSlashes (path : Chars) : Chars :=
  let back := path.reverse.dropWhile (· == '/')
  if back.isEmpty then path.take 1 else back.reverse

/-- The path of the directory that a path is in, if it names one. -/
def parentPath? (path : Chars) : Option Chars :=
  let back := (withoutSlashes path).reverse.dropWhile (· != '/')
  if back.isEmpty then none else some (withoutSlashes back.reverse)

/-- Takes away a directory and then those that it was in. -/
def removeUpwards (t : Task) (tells ignoresFull : Bool) : Nat → Bool → Chars → Step Bool
  | 0, _, _ => return true
  | n + 1, isFirst, path => do
    if tells then printLine t (t.title ++ ": removing directory, ".toList ++ Quoting.quoted path)
    match ← removeFolderAt t path with
    | .ok _ =>
      match parentPath? path with
      | some parent => removeUpwards t tells ignoresFull n false parent
      | none => return true
    | .error e =>
      if e = .notEmpty && ignoresFull then return true
      else
        complainOf t (if isFirst then "failed to remove " else "failed to remove directory ").toList
          path e
        return false

/-- Takes away empty directories. -/
def rmdir : Utility := fun t => do
  let fs ← flagsOf t 1 ["p,parents", "v,verbose", "ignore-fail-on-non-empty"]
  if fs.operands.isEmpty then missingOperand t 1
  let isFine ← forAll (fun path =>
    removeUpwards t (fs.has "v") (fs.has "ignore-fail-on-non-empty")
      (if fs.has "p" then path.length + 1 else 1) true path) fs.operands
  return codeOf isFine

/-! ## 3. Taking away -/

/-- How entries are taken away. -/
structure Removal where
  isForced : Bool
  isDeep : Bool
  takesFolders : Bool
  asks : Bool
  tells : Bool

/-- Takes away one entry that is not a directory with something in it. -/
def removeEntry (t : Task) (r : Removal) (path : Chars) (node : Node) : Step Bool := do
  let isFolder := match node with
    | .directory _ => true
    | _ => false
  let wanted ← if r.asks then
      agrees t ("remove ".toList ++ (kindOf node).toList ++ ' ' :: Quoting.quoted path)
    else pure true
  if !wanted then return true
  match ← if isFolder then removeFolderAt t path else unlinkAt t path with
  | .ok _ =>
    if r.tells then
      printLine t ((if isFolder then "removed directory " else "removed ").toList ++
        Quoting.quoted path)
    return true
  | .error e =>
    if r.isForced && (e = .notFound || e = .notDirectory) then return true
    complainOf t "cannot remove ".toList path e
    return false

/-- Takes away what a directory holds, and then itself. -/
def removeDeep (t : Task) (r : Removal) : Nat → Chars → Node → Step Bool
  | 0, path, node => removeEntry t r path node
  | depth + 1, path, node => do
    match node with
    | .directory inside =>
      let entries := sortedEntries inside
      let descends ← if r.asks && !entries.isEmpty then
          agrees t ("descend into directory ".toList ++ Quoting.quoted path)
        else pure true
      if !descends then return true
      let isFine ← forAll (fun (name, node) => removeDeep t r depth (within path name) node) entries
      if isFine then removeEntry t r path node else return false
    | node => removeEntry t r path node

/-- Whether the last name of a path is that of a directory relative to another. -/
def endsInDots (path : Chars) : Bool :=
  let name := ((withoutSlashes path).reverse.takeWhile (· != '/')).reverse
  name = ['.'] || name = ['.', '.']

/-- Takes away what is at a path. -/
def removePath (t : Task) (r : Removal) (path : Chars) : Step Bool := do
  if r.isDeep && withoutSlashes path = ['/'] then
    complain t "it is dangerous to operate recursively on '/'".toList
    complain t "use --no-preserve-root to override this failsafe".toList
    return false
  if r.isDeep && endsInDots path then
    complain t ("refusing to remove '.' or '..' directory: skipping ".toList ++
      Quoting.quoted path)
    return false
  match ← nodeAt t false path with
  | .error e =>
    if r.isForced && (e = .notFound || e = .notDirectory) then return true
    complainOf t "cannot remove ".toList path e
    return false
  | .ok (.directory inside) =>
    if r.isDeep then removeDeep t r (depthOf inside + 2) path (.directory inside)
    else if r.takesFolders then removeEntry t r path (.directory inside)
    else
      complainOf t "cannot remove ".toList path .isDirectory
      return false
  | .ok node => removeEntry t r path node

/-- Takes away files, and directories on demand. -/
def rm : Utility := fun t => do
  let fs ← flagsOf t 1 ["d,dir", "f,force", "i", "I", "interactive[", "one-file-system",
    "no-preserve-root", "preserve-root[", "r,recursive", "R", "v,verbose"]
  let isForced := fs.last? ["f", "i", "I"] = some "f"
  if fs.operands.isEmpty then
    if isForced then Step.exit 0 else missingOperand t 1
  let r : Removal := {
    isForced
    isDeep := fs.has "r" || fs.has "R"
    takesFolders := fs.has "d"
    asks := fs.last? ["f", "i", "I"] = some "i"
    tells := fs.has "v" }
  let count := fs.operands.length
  let goesOn ← if fs.last? ["f", "i", "I"] = some "I" && (r.isDeep || count > 3) then
      agrees t ("remove ".toList ++ digits count ++
        (if count = 1 then " argument" else " arguments").toList ++
        (if r.isDeep then " recursively" else "").toList)
    else pure true
  if !goesOn then return 0
  return codeOf (← forAll (removePath t r) fs.operands)

/-- Takes away one file. -/
def unlink : Utility := fun t => do
  let fs ← flagsOf t 1 []
  match fs.operands with
  | [] => missingOperand t 1
  | [path] =>
    match ← unlinkAt t path with
    | .ok _ => return 0
    | .error e =>
      complainOf t "cannot unlink ".toList path e
      return 1
  | _ :: w :: _ => extraOperand t 1 w

/-! ## 4. Notes about files -/

/-- The number of days before a date, counted from the start of the year 1970. -/
def daysBefore (year month day : Nat) : Int :=
  let y : Int := if month ≤ 2 then year - 1 else year
  let m : Int := (month + 9) % 12
  365 * y + y / 4 - y / 100 + y / 400 + (153 * m + 2) / 5 + day - 719469

/-- A moment in nanoseconds from its parts, if they are possible. -/
def moment? (year month day hour minute second : Nat) : Option Int :=
  if month = 0 || month > 12 || day = 0 || day > 31 || hour > 23 || minute > 59 || second > 60 then
    none
  else
    some (((daysBefore year month day * 24 + hour) * 60 + minute) * 60 + second) |>.map
      (· * 1000000000)

/-- The moment that a text in the form of a date, or of a count of seconds, means. -/
def dateText? (text : Chars) : Option Int :=
  match text with
  | '@' :: '-' :: ds =>
    if ds.isEmpty || !ds.all isDecimal then none else some (-(numberOf 10 ds : Int) * 1000000000)
  | '@' :: ds =>
    if ds.isEmpty || !ds.all isDecimal then none else some ((numberOf 10 ds : Int) * 1000000000)
  | text =>
    let cleaned := text.map fun c => if isDecimal c then c else ' '
    let numbers := (cleaned.foldr (fun c (groups : List Chars) =>
      match c, groups with
      | ' ', groups => [] :: groups
      | c, g :: more => (c :: g) :: more
      | c, [] => [[c]]) [[]]).filter (!·.isEmpty) |>.map (numberOf 10)
    let isShaped := text.all fun c => isDecimal c || "-:TZ ".toList.contains c
    match isShaped, numbers with
    | true, [y, m, d] => moment? y m d 0 0 0
    | true, [y, m, d, h, i] => moment? y m d h i 0
    | true, [y, m, d, h, i, s] => moment? y m d h i s
    | _, _ => none

/-- The moment that digits mean: month, day, hour and minute, perhaps a year before them and
seconds after a point. -/
def stampText? (text : Chars) : Option Int :=
  let ds := text.takeWhile (· != '.')
  let seconds? : Option Nat := match text.drop ds.length with
    | [] => some 0
    | ['.', a, b] => if isDecimal a && isDecimal b then some (numberOf 10 [a, b]) else none
    | _ => none
  let two (k : Nat) : Nat := numberOf 10 ((ds.drop k).take 2)
  match seconds?, ds.all isDecimal, ds.length with
  | some s, true, 12 => moment? (numberOf 10 (ds.take 4)) (two 4) (two 6) (two 8) (two 10) s
  | some s, true, 10 =>
    let y := two 0
    moment? (if y < 69 then 2000 + y else 1900 + y) (two 2) (two 4) (two 6) (two 8) s
  | some s, true, 8 => moment? 1970 (two 0) (two 2) (two 4) (two 6) s
  | _, _, _ => none

/-- The time that flags ask for, now if they ask for none. -/
def timeFlag (t : Task) (fs : Flags) : Step Int := do
  let wrong {α : Type} (w : Chars) : Step α := do
    complain t ("invalid date format ".toList ++ Quoting.plainly w)
    Step.exit 1
  match fs.value? "r", fs.value? "d", fs.value? "t" with
  | some file, _, _ =>
    match ← nodeAt t true file with
    | .ok (.file f) => return f.modified
    | .ok _ => return 0
    | .error e =>
      complainOf t "failed to get attributes of ".toList file e
      Step.exit 1
  | none, some w, _ =>
    match dateText? w with
    | some n => return n
    | none =>
      if w = "now".toList || w.isEmpty then Step.act fun w => (w.clock, w) else wrong w
  | none, none, some w =>
    match stampText? w with
    | some n => return n
    | none => wrong w
  | none, none, none => Step.act fun w => (w.clock, w)

/-- Makes files, or notes that they were changed. -/
def touch : Utility := fun t => do
  let fs ← flagsOf t 1 ["a", "c,no-create", "d,date=", "f", "h,no-dereference", "m",
    "r,reference=", "t=", "time="]
  let now ← timeFlag t fs
  if fs.operands.isEmpty then
    misuse t 1 "missing file operand".toList
  let isFine ← forAll (fun path => do
    if path = ['-'] then return true
    let fail (what : String) (e : OsError) : Step Bool := do
      complainOf t what.toList path e
      return false
    match ← nodeAt t true path with
    | .ok (.file _) =>
      if !fs.has "a" || fs.has "m" then
        let _ ← Step.act (t.edit (·.alterFile (.ofChars path) fun f => { f with modified := now }))
      return true
    | .ok _ => return true
    | .error .notFound =>
      if fs.has "c" || fs.has "h" then return true
      match ← Step.act (t.openFile .append path) with
      | .ok _ =>
        let _ ← Step.act (t.edit (·.alterFile (.ofChars path) fun f => { f with modified := now }))
        return true
      | .error e => fail "cannot touch " e
    | .error e =>
      if fs.has "c" && e = .notFound then return true
      else if e = .notDirectory && path.getLast? = some '/' then fail "setting times of " e
      else fail "cannot touch " e) fs.operands
  return codeOf isFine

/-- Whether an argument is a change of permission bits although it starts with a dash. -/
def isDashedMode (w : Chars) : Bool :=
  match w with
  | '-' :: c :: _ => "rwxXstugoa,+=01234567".toList.contains c
  | _ => false

/-- The arguments without those that are changes of permission bits, and these. -/
def splitModes : List Chars → List Chars × List Chars
  | [] => ([], [])
  | ['-', '-'] :: more => (['-', '-'] :: more, [])
  | w :: more =>
    let (others, modes) := splitModes more
    if isDashedMode w then (others, w :: modes) else (w :: others, modes)

/-- Changes the permission bits of one file, and tells about it. -/
def changeMode (t : Task) (fs : Flags) (change : (isDirectory : Bool) → Nat → Nat) (path : Chars)
    (node : Node) : Step PUnit := do
  let tell (before after : Nat) : Step PUnit := do
    let show4 (m : Nat) : Chars := modeDigits m ++ ' ' :: '(' :: modeLetters m ++ [')']
    if before != after && (fs.has "v" || fs.has "c") then
      printLine t ("mode of ".toList ++ Quoting.quoted path ++ " changed from ".toList ++
        show4 before ++ " to ".toList ++ show4 after)
    else if fs.has "v" then
      printLine t ("mode of ".toList ++ Quoting.quoted path ++ " retained as ".toList ++
        show4 before)
  match node with
  | .file f =>
    let after := change false f.mode
    let _ ← Step.act (t.edit (·.alterFile (.ofChars path) fun f => { f with mode := after }))
    tell f.mode after
  | .directory _ => tell 0o755 0o755
  | .link _ => pure ()

/-- Changes the permission bits of files. -/
def chmod : Utility := fun t => do
  let (args, modes) := splitModes t.arguments
  let fs ← flagsOf { t with arguments := args } 1
    ["c,changes", "f,silent", "f,quiet", "R,recursive", "v,verbose", "reference=",
      "preserve-root", "no-preserve-root"]
  let (text, files) ← match modes, fs.operands, fs.value? "reference" with
    | _, files, some _ => pure ([], files)
    | m :: ms, files, none => pure ([','].intercalate (m :: ms), files)
    | [], m :: files, none => pure (m, files)
    | [], [], none => missingOperand t 1
  if files.isEmpty then
    if text.isEmpty && (fs.value? "reference").isSome then missingOperand t 1
    else misuse t 1 ("missing operand after ".toList ++ Quoting.plainly text)
  let change ← match fs.value? "reference" with
    | some file =>
      match ← nodeAt t true file with
      | .ok (.file f) => pure fun (_ : Bool) (_ : Nat) => f.mode
      | .ok _ => pure fun (_ : Bool) (_ : Nat) => 0o755
      | .error e =>
        complainOf t "failed to get attributes of ".toList file e
        Step.exit 1
    | none =>
      match ModeChange.read? text with
      | some ms => pure fun isDirectory mode => ModeChange.applyAll t.mask isDirectory mode ms
      | none => misuse t 1 ("invalid mode: ".toList ++ Quoting.plainly text)
  let isFine ← forAll (fun path => do
    match ← nodeAt t true path with
    | .error e =>
      let isLink := (← nodeAt t false path).toOption.isSome
      if !fs.has "f" then
        if isLink && e = .notFound then
          complain t ("cannot operate on dangling symlink ".toList ++ Quoting.quoted path)
        else complainOf t "cannot access ".toList path e
      return false
    | .ok node =>
      changeMode t fs change path node
      match fs.has "R", node with
      | true, .directory inside =>
        for (p, n) in entriesWithin true (depthOf inside + 1) path inside do
          changeMode t fs change p n
      | _, _ => pure ()
      return true) files
  return codeOf isFine

/-- Makes files as long as is asked for. -/
def truncate : Utility := fun t => do
  let fs ← flagsOf t 1 ["c,no-create", "o,io-blocks", "r,reference=", "s,size="]
  let size? : Option (Char × Nat) ← match fs.value? "s", fs.value? "r" with
    | some w, _ =>
      let (sign, ds) := match w with
        | c :: rest => if "+-<>/%".toList.contains c then (c, rest) else ('=', w)
        | [] => ('=', [])
      let n := ds.takeWhile isDecimal
      let unit? : Option Nat := match String.ofList (ds.drop n.length) with
        | "" => some 1
        | "K" => some 1024
        | "M" => some 1048576
        | "KB" => some 1000
        | _ => none
      match n.isEmpty, unit? with
      | false, some u => pure (some (sign, numberOf 10 n * u))
      | _, _ =>
        complain t ("Invalid number: ".toList ++ Quoting.plainly w)
        Step.exit 1
    | none, some file =>
      match ← nodeAt t true file with
      | .ok (.file f) => pure (some ('=', f.content.length))
      | .ok _ => pure (some ('=', 0))
      | .error e =>
        complainOf t "cannot stat ".toList file e
        Step.exit 1
    | none, none => pure none
  match size? with
  | none => misuse t 1 "you must specify either '--size' or '--reference'".toList
  | some (sign, n) =>
    if fs.operands.isEmpty then
      misuse t 1 "missing file operand".toList
    let newLength (old : Nat) : Nat := match sign with
      | '+' => old + n
      | '-' => old - n
      | '<' => min old n
      | '>' => max old n
      | '/' => if n = 0 then old else old / n * n
      | '%' => if n = 0 then old else (old + n - 1) / n * n
      | _ => n
    let isFine ← forAll (fun path => do
      let isThere := (← nodeAt t true path).toOption.isSome
      if !isThere && fs.has "c" then return true
      match ← Step.act (t.openFile .append path) with
      | .error e =>
        complain t ("cannot open ".toList ++ Quoting.quoted path ++ " for writing: ".toList ++
          e.reason.toList)
        return false
      | .ok _ =>
        let _ ← Step.act (t.edit (·.alterFile (.ofChars path) fun f =>
          let size := newLength f.content.length
          { f with content := f.content.take size ++
              List.replicate (size - f.content.length) 0 }))
        return true) fs.operands
    return codeOf isFine

/-- Writes its input to files and to standard output. -/
def tee : Utility := fun t => do
  let fs ← flagsOf t 1 ["a,append", "i,ignore-interrupts", "p", "output-error["]
  let opening : Opening := if fs.has "a" then .append else .write
  let opened ← fs.operands.mapM fun path => do
    match ← Step.act (t.openFile opening path) with
    | .ok k => return some k
    | .error e =>
      complainNamed t path e
      return none
  let (text, isRead) ← match ← content t ['-'] with
    | .ok text => pure (text, true)
    | .error e =>
      complain t ("read error: ".toList ++ e.reason.toList)
      pure ([], false)
  for k in opened.filterMap id do
    let _ ← Step.act (Act.attempt fun w => w.write k text)
  print t text
  return codeOf (isRead && opened.all (·.isSome))

end LintRun.Utility
