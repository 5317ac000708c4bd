import LintRun.Machine.Executable
import LintRun.Machine.Utility.Table
import LintRun.Shell.Start

/-!
# Starting programs

`execute` starts what is at a path.  `search` looks for a program by name in the directories that
a variable lists, and gives what nobody else can start to the command interpreter.

A program that is not found and one that cannot be started are told apart here, since the program
words them differently; this is the part of the machine that its error texts depend on.
-/

namespace LintRun

/-! ## 1. Programs of the machine -/

/-- The name of the command interpreter. -/
def interpreterName : String := "dash"

/-- The names of all programs of the machine. -/
def nativeNames : List String :=
  interpreterName :: (Utility.table.map (·.1) ++ Utility.starters.map (·.1))

/-! ## 2. Starting -/

/-- The command interpreter for files that nobody else can start. -/
def lastInterpreter : Chars := "/bin/sh".toList

/-- Starts a file; one that is no program is a script for the command interpreter. -/
def orInterpreted (start : Launch) : Launch := fun path task => do
  match ← start path task with
  | .error .badExecutable =>
    start lastInterpreter { task with
      title := lastInterpreter
      arguments := path :: task.arguments }
  | r => return r

/-- Whether an error means that the next directory is to be tried. -/
def isMissing : OsError → Bool
  | .notFound | .notDirectory => true
  | _ => false

/-- The directories that are searched when no variable lists any. -/
def defaultSearched : Chars := "/bin:/usr/bin".toList

/-- Starts a program by name: at the path it spells if it has a slash, else in the first of the
listed directories that has it.  One that may not be started is passed over, but counts when no
other is found. -/
def search (start : Launch) : Launch := fun name task =>
  if name.isEmpty then return .error .notFound
  else if name.contains '/' then start name task
  else if name.length > nameLimit then return .error .nameTooLong
  else
    let listed := (task.valueOf? "PATH".toList).getD defaultSearched
    let candidate (directory : Chars) : Chars :=
      if directory.isEmpty then name else directory ++ '/' :: name
    attempt task false .notFound ((pieces (· == ':') listed).map candidate)
where
  attempt (task : Task) (wasDenied : Bool) (last : OsError) :
      List Chars → Act (Except OsError Ending)
    | [] => return .error (if wasDenied then .permissionDenied else last)
    | path :: paths => do
      match ← start path task with
      | .error .permissionDenied => attempt task true .permissionDenied paths
      | .error e => if isMissing e then attempt task wasDenied e paths else return .error e
      | r => return r

/-- The program of the machine with a name, given how it starts others. -/
def native? (start : Launch) (name : Chars) : Option Program :=
  let name := shown name
  if name = interpreterName then some (Shell.interpreter start)
  else
    match Utility.table.lookup name, Utility.starters.lookup name with
    | some u, _ => some u.program
    | _, some u => some (u (search (orInterpreted start))).program
    | none, none => none

/-- Starts what is at a path; processes may start others only so deep. -/
def execute : Nat → Launch
  | 0 => fun _ _ => return .error .tooManyLinks
  | depth + 1 => fun path task => do
    match Executable.resolve (← task.tree) Executable.scriptLimit path task with
    | .error e => return .error e
    | .ok (name, task) =>
      match native? (execute depth) name with
      | some program => .ok <$> program task
      | none => return .error .badExecutable

/-- How deep processes may start others. -/
def startDepth : Nat := 64

/-! ## 3. The files of a machine -/

/-- The directories that every machine has. -/
def systemDirectories : List String :=
  ["dev", "etc", "home", "proc", "root", "run", "srv", "sys", "tmp", "usr/bin", "usr/lib",
    "usr/local/bin", "usr/local/sbin", "usr/sbin", "usr/share", "var/tmp"]

/-- The links that every machine has. -/
def systemLinks : List (String × String) :=
  [("bin", "usr/bin"), ("lib", "usr/lib"), ("sbin", "usr/sbin"), ("usr/bin/sh", interpreterName)]

/-- The names that a path in the list of a machine is made of. -/
def namesOf (path : String) : List Name := (path.splitOn "/").map Utf8.encode

/-- The files that every machine has. -/
def systemListing : Listing :=
  let l := systemDirectories.foldl (fun l d => l.makeDirectories (namesOf d)) Listing.empty
  let l := systemLinks.foldl (fun l (p, goal) => l.put (.link (.ofString goal)) (namesOf p)) l
  let l := World.deviceNames.foldl (fun l names => l.put (.file { mode := 0o666 }) names) l
  nativeNames.foldl (fun l n =>
    l.put (.file (Executable.nativeFile n)) (namesOf ("usr/bin/" ++ n))) l

end LintRun
