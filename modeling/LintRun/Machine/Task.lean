import LintRun.Machine.World
import LintRun.Text.Digits

/-!
# Tasks

What a process is given when it starts, and the steps that programs take through it: reading
and writing its streams, opening files, complaining.

Tasks are run on the machine that the program is tried on; the program itself only sees how a
process ends and what it wrote.
-/

namespace LintRun

/-- What a process is given. -/
structure Task where
  /-- The name it was started by. -/
  title : Chars
  arguments : List Chars := []
  environment : List (Chars × Chars) := []
  /-- The names that lead to the working directory. -/
  directory : List Name := []
  /-- The open streams, each with the index of its channel. -/
  streams : List (Nat × Nat) := []
  /-- The permission bits that new files do not get. -/
  mask : Nat := 0o022
  number : Nat := 1
  parent : Nat := 0
  /-- The signals it takes no notice of. -/
  ignored : List Nat := []
  deriving Inhabited

/-- A program: what a process does with its task, and how it ends. -/
abbrev Program := Task → Act Ending

/-- Starts what is called by a name or a path, if that is possible, and waits for its end. -/
abbrev Launch := Chars → Task → Act (Except OsError Ending)

/-- The characters of a text, each for one byte. -/
def chars (s : String) : Chars := ofOctets (Utf8.encode s)

/-- The text of characters that stand for bytes. -/
def shown (cs : Chars) : String := String.ofList cs

/-- The stream that a path names. -/
def streamNamed? (path : Chars) : Option Nat :=
  let numbered (before : String) : Option Nat :=
    let before := before.toList
    let digits := path.drop before.length
    if before.isPrefixOf path && !digits.isEmpty && digits.all isDecimal then
      some (numberOf 10 digits) else none
  match shown path with
  | "/dev/stdin" => some 0
  | "/dev/stdout" => some 1
  | "/dev/stderr" => some 2
  | _ => (numbered "/dev/fd/").or (numbered "/proc/self/fd/")

namespace Task

/-- The value of a variable. -/
def valueOf? (t : Task) (name : Chars) : Option Chars := t.environment.lookup name

/-- The permission bits of a new file that asks for some. -/
def newMode (t : Task) (asked : Nat) : Nat := asked &&& (0o7777 ^^^ t.mask)

/-! ## 1. Streams -/

/-- Writes a text to a stream. -/
def write (t : Task) (stream : Nat) (text : Chars) : Act (Except OsError Unit) :=
  match t.streams.lookup stream with
  | none => pure (.error .badChannel)
  | some k => if text.isEmpty then pure (.ok ()) else Act.attempt fun w => w.write k text

/-- Writes a text to a stream if that is possible. -/
def put (t : Task) (stream : Nat) (text : Chars) : Act Unit := do
  let _ ← t.write stream text

/-- Writes a text to standard output. -/
def print (t : Task) (text : Chars) : Act Unit := t.put 1 text

/-- Writes a message about a failure. -/
def complain (t : Task) (message : Chars) : Act Unit :=
  t.put 2 (t.title ++ ':' :: ' ' :: message ++ ['\n'])

/-- The rest of a stream. -/
def takeAll (t : Task) (stream : Nat) : Act (Except OsError Chars) :=
  match t.streams.lookup stream with
  | none => pure (.error .badChannel)
  | some k => Act.attemptWith fun w =>
    (w.ahead k).map fun text => (text, w.skip k text.length)

/-! ## 2. Files -/

/-- The files seen from the working directory. -/
def tree (t : Task) : Act Tree := fun w => (w.tree t.directory, w)

/-- Opens a file, or the stream that a path names. -/
def openFile (t : Task) (o : Opening) (path : Chars) : Act (Except OsError Nat) :=
  match streamNamed? path with
  | some stream =>
    match t.streams.lookup stream with
    | some k => pure (.ok k)
    | none => pure (.error .notFound)
  | none => Act.attemptWith fun w => w.openFile t.directory (t.newMode 0o666) o (.ofChars path)

/-- The content of a file. -/
def readFile (t : Task) (path : Chars) : Act (Except OsError Chars) := do
  match ← t.openFile .read path with
  | .error e => return .error e
  | .ok k => Act.attemptWith fun w => (w.ahead k).map fun text => (text, w.skip k text.length)

/-- The content of a file, or the rest of standard input for `-`. -/
def readSource (t : Task) (name : Chars) : Act (Except OsError Chars) :=
  if name = ['-'] then t.takeAll 0 else t.readFile name

/-- Gives a file another content. -/
def writeFile (t : Task) (o : Opening) (path text : Chars) : Act (Except OsError Unit) := do
  match ← t.openFile o path with
  | .error e => return .error e
  | .ok k => if text.isEmpty then return .ok () else Act.attempt fun w => w.write k text

/-- Changes the tree seen from the working directory. -/
def edit (t : Task) (f : Tree → Except OsError Tree) : Act (Except OsError Unit) :=
  Act.attempt fun w => w.edit t.directory f

/-- What is at a path, a last link followed or not. -/
def look (t : Task) (followLast : Bool) (path : Chars) : Act (Except OsError Node) := do
  return ((← t.tree).locate followLast (.ofChars path)).map (·.node)

end Task

/-! ## 3. Endings -/

end LintRun
