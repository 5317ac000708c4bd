import LintRun.Machine.Launch
import LintRun.Process.Runner

/-!
# Machines

A machine has files, a working directory and variables.  As a runner it starts its programs and
the scripts among its files, one after another; what they change in the files stays.

`runner` stands where the program starts processes of the operating system (`SystemRunner`).  It is
the one place where the modules of `Machine` and `Shell` meet those of the program: they are a
machine to try the program on, with the utilities and the command interpreter that its tests call,
and not a part of the program.  Nothing is proved about what a utility or a script does.  One thing
alone is proved of them, `Machine.runner_eq`: this runner is the runner of a `Host`, a system of
which nothing is known but how the program talks to it.  What is said of the program is said of
every host, or of every runner.
-/

namespace LintRun

/-- Files, a working directory and variables. -/
structure Machine where
  root : Listing
  /-- The names that lead to the working directory. -/
  directory : List Name := []
  environment : Bindings := .empty
  /-- The time in nanoseconds. -/
  clock : Int := 0
  deriving Inhabited

namespace Machine

/-- The files seen from the working directory. -/
def tree (m : Machine) : Tree := ⟨m.root, m.directory⟩

/-- The machine with another tree. -/
def withTree (m : Machine) (t : Tree) : Machine :=
  { m with root := t.root, directory := t.directory }

/-! ## 1. Variables -/

/-- A variable as one text. -/
def entry (v : String × String) : Chars := chars v.1 ++ '=' :: chars v.2

/-- The name in the text of a variable, which has at least one character. -/
def entryName (e : Chars) : Chars := e.take 1 ++ (e.drop 1).takeWhile (· != '=')

/-- The texts of the variables of a machine. -/
def entries (m : Machine) : List Chars := m.environment.toList.map entry

/-- Whether the machine has a variable. -/
def hasVariable (m : Machine) (name : String) : Bool :=
  name != "" && m.entries.any ((chars name ++ ['=']).isPrefixOf ·)

/-- The variables that are set for a process besides those of the machine. -/
def additions (m : Machine) (i : Invocation) : List (String × String) :=
  i.environment.toList.filter fun v => !m.hasVariable v.1

/-- The texts of the variables that a process has, in the order of their names if any were
added. -/
def entriesFor (m : Machine) (i : Invocation) : List Chars :=
  let more := (m.additions i).map fun v => (chars v.1, entry v)
  if more.isEmpty then m.entries
  else
    let all := m.entries.map (fun e => (entryName e, e)) ++ more
    (all.mergeSort fun a b => !decide (b.1 < a.1)).map (·.2)

/-- A variable from its text. -/
def variableOf (e : Chars) : Chars × Chars :=
  (e.takeWhile (· != '='), (e.dropWhile (· != '=')).drop 1)

/-! ## 2. Processes -/

/-- Whether something that a process is to be given holds a zero byte. -/
def hasNul (m : Machine) (i : Invocation) : Bool :=
  let holdsNul (s : String) : Bool := (Utf8.encode s).contains 0
  holdsNul i.program || i.arguments.any (·.contains 0) ||
    (m.additions i).any (fun v => holdsNul v.1 || holdsNul v.2) ||
    i.directory.any (·.bytes.contains 0)

/-- What a process is given, in a directory. -/
def task (m : Machine) (i : Invocation) (directory : List Name) : Task where
  title := chars i.program
  arguments := i.arguments.map ofOctets
  environment := (m.entriesFor i).map variableOf
  directory
  streams := [(0, 0), (1, 1), (2, 2)]
  number := 2
  parent := 1

/-- The world of a new process: an empty input and two outputs. -/
def world (m : Machine) : World where
  root := m.root
  channels := #[.source [], .endlessSink, .endlessSink]
  clock := m.clock
  processes := 2

/-- Starts a process and waits for its end. -/
def start (m : Machine) (i : Invocation) : Except OsError Ending × World :=
  let place := match i.directory with
    | some d => m.tree.enter d
    | none => .ok m.tree
  if m.hasNul i then (.error (.nulByte "nul byte found in provided data"), m.world)
  else
    match place with
    | .error e => (.error e, m.world)
    | .ok t => search (execute startDepth) (chars i.program) (m.task i t.directory) m.world

/-- The machine after a process. -/
def after (m : Machine) (w : World) : Machine := { m with root := w.root, clock := w.clock }

/-- The reply to an invocation: captured streams are handed back, the others are shared. -/
def reply (m : Machine) (i : Invocation) : Reply × Machine :=
  let (result, w) := m.start i
  let written (k : Nat) : List UInt8 := toOctets (w.collected k)
  let r : Reply := match result with
    | .error .notFound => { result := .error (.toolNotFound i.program) }
    | .error e => { result := .error (.failed i.program e.message) }
    | .ok ending => {
        result := .ok {
          code := ending.code
          stdout := if i.capturesOutput then Utf8.decodeLossy (written 1) else ""
          stderr := if i.capturesErrors then Utf8.decodeLossy (written 2) else "" }
        shared := {
          out := if i.capturesOutput then [] else written 1
          err := if i.capturesErrors then [] else written 2 } }
  (r, m.after w)

/-- Starts processes on a machine. -/
def runner : Runner Machine where
  answer i m := m.reply i
  files m := m.tree

end Machine

end LintRun
