import LintRun.CommandLine.Catalogue
import LintRun.CommandLine.Options
import LintRun.Machine.Basic
import LintRun.Registry.Discovery
import LintRun.Run.Basic
import LintRun.Run.Document

/-!
# The program

`Program.run` takes a command line to what the program leaves on a machine: an exit code
and what was written to the two standard streams, by itself and by the processes it started.

Models `main`.  What `--debug` turns on (`init_tracing`) adds lines to the log on standard error
and is left out, so the flag is read and changes nothing.
-/

namespace LintRun

/-- What the program leaves. -/
structure Departure where
  code : UInt8 := 0
  streams : Streams := {}
  deriving DecidableEq, Inhabited

namespace Program

/-! ## 1. Texts -/

/-- The name and version of the program. -/
def versionText : String := "polylint 0.1.0\n"

/-- The flags with what they do. -/
def flagLines : List (String × String) := [
  ("      --cc", "Lint C++ files (cpplint) [aliases: --cpp, --cxx]"),
  ("      --js", "Lint JavaScript files (eslint) [aliases: --javascript, --es]"),
  ("      --py", "Lint Python files (pylint) [aliases: --python]"),
  ("      --gn", "Check GN build files (gn format)"),
  ("      --only <KEY>", "Lint only the named category (repeatable)"),
  ("  -c, --changed", "Only lint files reported as changed by the VCS"),
  ("      --fix", "Ask linters to fix what they can"),
  ("  -v, --verbose", "Print per-category progress and a run summary"),
  ("      --root <DIR>", "Source root to lint [default: .]"),
  ("      --config <FILE>", "Category registry file"),
  ("      --list", "List the registered categories and exit"),
  ("      --format <FORMAT>", "Output format (text or json) [default: text]"),
  ("      --debug", "Enable debug tracing output to stderr"),
  ("  -h, --help", "Print help"),
  ("  -V, --version", "Print version")]

/-- How the program is used. -/
def helpText : String :=
  let row (flag text : String) : String :=
    flag ++ String.ofList (List.replicate (25 - flag.length) ' ') ++ text ++ "\n"
  "Run per-language linters over a source tree and aggregate their exit codes\n\n" ++
    "Usage: polylint [OPTIONS]\n\nOptions:\n" ++
    String.join (flagLines.map fun (flag, text) => row flag text)

/-- What is written about a command line that is misused. The reader of arguments that the
program is built on has wording of its own for each kind of misuse, which is not modelled: this
one text stands for all of them, and says no more than that something is written and that the run
ends there. -/
def usageText : String :=
  "error: invalid command line\n\nUsage: polylint [OPTIONS]\n\n" ++
    "For more information, try '--help'.\n"

/-- A text whose further lines are as far from the margin as its first. -/
def indented (first further text : String) : String :=
  first ++ ("\n" ++ further).intercalate (text.splitOn "\n")

/-- A number at the end of five columns. -/
def column (n : Nat) : String :=
  let digits := (toString n).toList
  String.ofList (List.replicate (5 - digits.length) ' ' ++ digits)

/-- The causes of an error, numbered if there are several. -/
def causeLines (causes : List String) : List String :=
  match causes with
  | [cause] => [indented "    " "    " cause]
  | causes => causes.mapIdx fun n cause => indented (column n ++ ": ") "       " cause

/-- What is written about an error. -/
def errorText (message : String) (causes : List String) : String :=
  let lines := if causes.isEmpty then [] else ["", "Caused by:"] ++ causeLines causes
  "\n".intercalate (("Error: " ++ message) :: lines) ++ "\n"

/-! ## 2. Ends -/

/-- Ends well with some lines written. -/
def printed (text : String) : Departure := { streams := { out := Utf8.encode text } }

/-- Ends because of an error. -/
def failed (message : String) (causes : List String) : Departure where
  code := 1
  streams := { err := Utf8.encode (errorText message causes) }

/-- The text of some lines. -/
def linesText (lines : List String) : String := String.join (lines.map (· ++ "\n"))

/-! ## 3. A run -/

/-- The options for a run. -/
def runOptions (o : Options) : RunOptions where
  categories := o.selected
  changedOnly := o.has .changed
  lint := { fix := o.has .fix, verbose := o.has .verbose }

/-- What is written to standard output about a report. -/
def reportText (o : Options) (r : Report) : String :=
  match o.format with
  | .json => r.json ++ "\n"
  | .text => if o.has .verbose then linesText r.summary else ""

/-- Runs the categories of a registry. -/
def lintTree {σ : Type} (r : Registry) (o : Options) (runner : Runner σ) (s : σ) :
    Departure :=
  let f := (r.run (runOptions o)).run runner s
  let out := f.events.flatMap Event.out
  let err := f.events.flatMap Event.err
  match f.value with
  | .ok report => {
      code := UInt8.ofInt report.exitCode
      streams := { out := out ++ Utf8.encode (reportText o report), err } }
  | .error e => {
      code := 1
      streams := { out, err := err ++ Utf8.encode (errorText e.message e.causes) } }

/-- Does what options ask for. -/
def carryOut {σ : Type} (o : Options) (runner : Runner σ) (s : σ) : Departure :=
  let t := runner.files s
  match t.canonical? o.root with
  | .error e => failed ("Invalid source root " ++ o.root.display) [e.message]
  | .ok sourceRoot =>
    match Registry.discover t sourceRoot o.config with
    | .error e => failed e.message e.causes
    | .ok registry =>
      if o.has .list then printed (linesText registry.lines)
      else lintTree registry o runner s

/-- Reads a command line and does what it asks for. -/
def run {σ : Type} (args : List (List UInt8)) (runner : Runner σ) (s : σ) : Departure :=
  match Options.ofArguments args with
  | .error .help => printed helpText
  | .error .version => printed versionText
  | .error (.misuse _) => { code := 2, streams := { err := Utf8.encode usageText } }
  | .ok o => carryOut o runner s

/-- Reads a command line and does what it asks for on a machine. -/
def runOn (m : Machine) (args : List (List UInt8)) : Departure :=
  run args Machine.runner m

end Program

end LintRun
