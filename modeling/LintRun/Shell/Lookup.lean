import LintRun.Shell.Builtin.Basic
import LintRun.Shell.Grammar
import LintRun.Text.Pieces

/-!
# What names mean

A name in the place of a command means a function, a command of the interpreter, or a program
that one of the listed directories has.
-/

namespace LintRun.Shell

/-- The commands of the interpreter that are not special. -/
def plainNames : List String := [
  "[", "alias", "bg", "cd", "chdir", "command", "echo", "false", "fg", "getopts", "hash", "jobs",
  "kill", "printf", "pwd", "read", "test", "true", "type", "ulimit", "umask", "unalias", "wait"]

/-- Whether a name is that of a special command of the interpreter. -/
def isSpecial (name : Chars) : Bool := specialNames.contains (String.ofList name)

/-- Whether a name is that of a command of the interpreter. -/
def isBuiltin (name : Chars) : Bool := isSpecial name || plainNames.contains (String.ofList name)

/-- What a name means. -/
inductive Meaning
  | function (f : Function)
  | builtin
  | program (path : Chars)
  | nothing (e : OsError)
  deriving Inhabited

/-- The first file in some directories that has a name and may be started; else why there is
none. -/
def findProgram (tree : Tree) (name : Chars) (otherwise : OsError) :
    List Chars → Except OsError Chars
  | [] => .error otherwise
  | directory :: more =>
    let path := if directory.isEmpty then name else directory ++ '/' :: name
    match tree.locate true (.ofChars path) with
    | .ok ⟨_, .file f⟩ =>
      if f.executable then .ok path else findProgram tree name .permissionDenied more
    | .ok _ => findProgram tree name .permissionDenied more
    | .error .notFound => findProgram tree name otherwise more
    | .error .notDirectory => findProgram tree name otherwise more
    | .error e => findProgram tree name e more

/-- The directories that are searched for programs. -/
def State.searched (s : State) : List Chars :=
  pieces (· == ':') ((s.valueOf? "PATH".toList).getD [])

/-- The directories that every machine has programs in. -/
def standardPlaces : List Chars :=
  ["/usr/local/sbin", "/usr/local/bin", "/usr/sbin", "/usr/bin", "/sbin", "/bin"].map (·.toList)

/-- The file that a name of a program means; a name with a slash is a path. -/
def programFor (places : List Chars) (name : Chars) : Eval (Except OsError Chars) := do
  if name.contains '/' then return .ok name
  else return findProgram (← place) name .notFound places

/-- Notes that a program was found. -/
def noteFound (name : Chars) : Eval PUnit := modify fun s =>
  if name.contains '/' || s.found.contains name then s else { s with found := s.found ++ [name] }

/-- Notes that a program was not found. -/
def noteMissing (name : Chars) : Eval PUnit := modify fun s =>
  { s with found := s.found.filter (· != name) }

/-- What a name means, functions left out or not. -/
def meaningOf (withFunctions : Bool) (places? : Option (List Chars)) (name : Chars) :
    Eval Meaning := do
  let s ← get
  match if withFunctions then s.functions.lookup name else none with
  | some f => return .function f
  | none =>
    if isBuiltin name then return .builtin
    else
      match ← programFor (places?.getD s.searched) name with
      | .ok path =>
        if places?.isNone then noteFound name
        return .program path
      | .error e =>
        if places?.isNone then noteMissing name
        return .nothing e

/-- How a reason is worded when a program cannot be started. -/
def startReason (e : OsError) : Chars :=
  match e with
  | .notFound | .notDirectory => "not found".toList
  | e => e.reason.toList

/-! ## 1. Telling what a name means -/

/-- The words that are part of commands. -/
def isKeyword (name : Chars) : Bool := (Token.reservedWords.lookup (String.ofList name)).isSome

/-- Tells what a name means, in words or as it would be used. -/
def describe (inWords : Bool) (places? : Option (List Chars)) (name : Chars) : Eval Outcome := do
  let s ← get
  let told (words short : Chars) : Eval Outcome :=
    saying (ended (if inWords then name ++ words else short))
  if isKeyword name then told " is a shell keyword".toList name
  else
    match s.aliases.lookup name with
    | some text =>
      told (" is an alias for ".toList ++ text)
        ("alias ".toList ++ name ++ '=' :: singleQuoted text)
    | none =>
      let wasFound := s.found.contains name
      match ← meaningOf true places? name with
      | .function _ => told " is a shell function".toList name
      | .builtin =>
        let kind := if isSpecial name then "special shell builtin" else "shell builtin"
        told (" is a " ++ kind).toList name
      | .program path =>
        let isThere := !name.contains '/' || (← place).has (.ofChars path)
        if isThere then
          told ((if wasFound then " is a tracked alias for " else " is ").toList ++ path) path
        else return { status := 127, text := if inWords then ended (name ++ ": not found".toList)
          else [] }
      | .nothing _ =>
        return { status := 127, text := if inWords then ended (name ++ ": not found".toList)
          else [] }

/-- Tells what names mean. -/
def tellMeanings : Builtin := fun names => do
  let outcomes ← names.mapM (describe true none)
  return {
    status := if outcomes.any (·.status != 0) then 127 else 0
    text := outcomes.flatMap (·.text) }

/-- Notes where programs are, or tells what was noted. -/
def noteProgram (name : Chars) : Eval Bool := do
  match ← meaningOf true none name with
  | .nothing e =>
    complain (name ++ ": ".toList ++ startReason e)
    return false
  | _ => return true

/-- How many rows the table of found programs has. -/
def programRows : Nat := 31

/-- Notes where programs are; without names it tells what was noted. -/
def notePrograms : Builtin := fun args => do
  let (options, names) ← optionsOf "r" args
  if !options.isEmpty then
    modify fun s => { s with found := [] }
    leaving 0
  else if names.isEmpty then
    let s ← get
    let tree ← place
    let paths := (tableOrder programRows (s.found.map fun n => (n, ()))).filterMap fun (n, _) =>
      (findProgram tree n .notFound s.searched).toOption
    saying (paths.flatMap ended)
  else
    let results ← names.mapM noteProgram
    leaving (if results.all id then 0 else 1)

/-! ## 2. Names for other texts -/

/-- An alias as it can be read again. -/
def shownAlias (name text : Chars) : Chars := shownAssignment [] name (some text)

/-- Gives names texts, or tells the texts of names. -/
def setAliases : Builtin := fun args => do
  if args.isEmpty then
    saying ((tableOrder variableRows (← get).aliases).flatMap fun (n, t) => shownAlias n t)
  else
    let one (w : Chars) : Eval Outcome := do
      let name := w.take 1 ++ (w.drop 1).takeWhile (· != '=')
      match (w.drop name.length), (← get).aliases.lookup w with
      | _ :: text, _ =>
        modify fun s => { s with aliases := putNamed name text s.aliases }
        leaving 0
      | [], some text => saying (shownAlias name text)
      | [], none =>
        warn ("alias: ".toList ++ w ++ " not found".toList)
        leaving 1
    let outcomes ← args.mapM one
    return {
      status := if outcomes.any (·.status != 0) then 1 else 0
      text := outcomes.flatMap (·.text) }

/-- Takes the texts of names away. -/
def unsetAliases : Builtin := fun args => do
  let (options, names) ← optionsOf "a" args
  if !options.isEmpty then
    modify fun s => { s with aliases := [] }
    leaving 0
  else
    let one (name : Chars) : Eval Bool := do
      let s ← get
      if (s.aliases.lookup name).isSome then
        set { s with aliases := s.aliases.filter (·.1 != name) }
        return true
      else
        warn ("unalias: ".toList ++ name ++ " not found".toList)
        return false
    let results ← names.mapM one
    leaving (if results.all id then 0 else 1)

end LintRun.Shell
