import LintRun.CommandLine.Flags

/-!
# Options from the command line

`Options.ofArguments` reads arguments from left to right.  The value of a setting is looked at
only when the next flag that is known comes up, or at the end; what is unknown is reported at
once.  The first problem met this way decides, and so does a request for help or the version.

Models the reading of the arguments into `Cli`, as the library does it that `Cli` declares its
flags to, and `selected_categories`.  The library's wording of a misuse is not modelled.
-/

namespace LintRun

/-- How a report is written. -/
inductive Format
  | text
  | json
  deriving DecidableEq, Inhabited

/-- What the command line asks for. -/
structure Options where
  switches : List Switch := []
  /-- Names of categories, in the order given. -/
  only : List String := []
  root : Path := .ofString "."
  config : Option Path := none
  format : Format := .text
  deriving DecidableEq, Inhabited

/-- What is wrong with a command line. -/
inductive Misuse
  | unknownArgument
  | invalidValue
  | argumentConflict
  | tooManyValues
  | invalidUtf8
  deriving DecidableEq, Inhabited

/-- What is done instead of a run. -/
inductive Detour
  | help
  | version
  | misuse (m : Misuse)
  deriving DecidableEq, Inhabited

namespace Options

/-- Whether a switch is on. -/
def has (o : Options) (s : Switch) : Bool := o.switches.contains s

/-- The switches that select a category, with its key. -/
def languages : List (Switch × String) :=
  [(.cc, "c++"), (.js, "javascript"), (.py, "python"), (.gn, "gn")]

/-- The names of the categories that are asked for; none stands for all. -/
def selected (o : Options) : List String :=
  (languages.filter fun l => o.has l.1).map (·.2) ++ o.only

end Options

/-! ## 1. What has been read so far -/

/-- The options given so far; a setting that is not given has no value yet. -/
structure Draft where
  switches : List Switch := []
  only : List String := []
  root : Option Path := none
  config : Option Path := none
  format : Option Format := none
  deriving DecidableEq, Inhabited

/-- A setting whose value is not looked at yet. -/
inductive Pending
  | nothing
  | waiting (s : Setting)
  | holding (s : Setting) (value : List UInt8)
  deriving DecidableEq, Inhabited

/-- A path that is not empty. -/
def pathValue (value : List UInt8) : Except Misuse Path :=
  if value.isEmpty then .error .invalidValue else .ok ⟨value⟩

/-- A format by name. -/
def formatValue (value : List UInt8) : Except Misuse Format :=
  if value = Utf8.encode "text" then .ok .text
  else if value = Utf8.encode "json" then .ok .json
  else .error .invalidValue

namespace Draft

/-- Turns on a switch; each is given once at most. -/
def turnOn (d : Draft) (s : Switch) : Except Misuse Draft :=
  if d.switches.contains s then .error .argumentConflict
  else .ok { d with switches := d.switches ++ [s] }

/-- Whether a setting has been given that is given once at most. -/
def isTaken (d : Draft) : Setting → Bool
  | .only => false
  | .root => d.root.isSome
  | .config => d.config.isSome
  | .format => d.format.isSome

/-- Gives a setting a value. -/
def assign (d : Draft) (s : Setting) (value : List UInt8) : Except Misuse Draft :=
  if d.isTaken s then .error .argumentConflict
  else
    match s with
    | .only =>
      match Utf8.decode? value with
      | some name => .ok { d with only := d.only ++ [name] }
      | none => .error .invalidUtf8
    | .root => (pathValue value).map fun p => { d with root := some p }
    | .config => (pathValue value).map fun p => { d with config := some p }
    | .format => (formatValue value).map fun f => { d with format := some f }

/-- Gives a pending setting its value. -/
def settle (d : Draft) : Pending → Except Misuse Draft
  | .nothing => .ok d
  | .waiting _ => .error .invalidValue
  | .holding s value => d.assign s value

/-- The options of a draft, defaults for what is not given. -/
def finish (d : Draft) : Options where
  switches := d.switches
  only := d.only
  root := d.root.getD (.ofString ".")
  config := d.config
  format := d.format.getD .text

end Draft

/-! ## 2. Reading arguments -/

/-- The misuse that an error of a draft is. -/
def orMisuse {α : Type} (e : Except Misuse α) : Except Detour α := e.mapError .misuse

/-- A flag that is known, with the value attached to it. -/
def takeFlag (d : Draft) (p : Pending) (value : Option (List UInt8)) :
    Flag → Except Detour (Draft × Pending)
  | .setting s => do
    let d ← orMisuse (d.settle p)
    match value with
    | none => return (d, .waiting s)
    | some v => return (← orMisuse (d.assign s v), .nothing)
  | flag => do
    if value.isSome then throw (.misuse .tooManyValues)
    let d ← orMisuse (d.settle p)
    match flag with
    | .switch s => return (← orMisuse (d.turnOn s), .nothing)
    | .version => throw .version
    | _ => throw .help

/-- A cluster of short names. -/
def takeCluster (d : Draft) (p : Pending) : List UInt8 → Except Detour (Draft × Pending)
  | [] => .ok (d, p)
  | b :: bs =>
    match Flag.ofShort? b with
    | none => .error (.misuse .unknownArgument)
    | some flag => do
      let (d, p) ← takeFlag d p none flag
      takeCluster d p bs

/-- The byte that flags start with. -/
def dash : UInt8 := 45

/-- The byte before an attached value. -/
def equalsSign : UInt8 := 61

/-- A long name and the value attached to it. -/
def splitLong (bytes : List UInt8) : List UInt8 × Option (List UInt8) :=
  match bytes.dropWhile (· != equalsSign) with
  | [] => (bytes, none)
  | _ :: value => (bytes.takeWhile (· != equalsSign), some value)

/-- An argument without a name in front: the value that is waited for. -/
def takeValue (d : Draft) (p : Pending) (value : List UInt8) : Except Detour (Draft × Pending) :=
  match p with
  | .waiting s => .ok (d, .holding s value)
  | _ => .error (.misuse .unknownArgument)

/-- One argument, other than the mark after which no flags come. -/
def takeArgument (d : Draft) (p : Pending) (arg : List UInt8) :
    Except Detour (Draft × Pending) :=
  match arg with
  | [] => takeValue d p arg
  | b :: bs =>
    if b != dash || bs.isEmpty then takeValue d p arg
    else if bs.head? = some dash then
      let (name, value) := splitLong bs.tail
      match Flag.ofLong? name with
      | none => .error (.misuse .unknownArgument)
      | some flag => takeFlag d p value flag
    else takeCluster d p bs

/-- The mark after which no flags come. -/
def endMark : List UInt8 := [dash, dash]

/-- All arguments. -/
def takeArguments (d : Draft) (p : Pending) : List (List UInt8) → Except Detour Draft
  | [] => orMisuse (d.settle p)
  | arg :: args =>
    if arg = endMark then
      if args.isEmpty then orMisuse (d.settle p) else .error (.misuse .unknownArgument)
    else do
      let (d, p) ← takeArgument d p arg
      takeArguments d p args

/-- The options that arguments ask for, or what is done instead of a run. -/
def Options.ofArguments (args : List (List UInt8)) : Except Detour Options :=
  (takeArguments {} .nothing args).map Draft.finish

end LintRun
