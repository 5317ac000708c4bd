import LintRun.Shell.Builtin.Basic

/-!
# Options and arguments of a script

The commands that turn options on and off, change the arguments, and take options out of
arguments for the script.
-/

namespace LintRun.Shell

/-! ## 1. Options of the interpreter -/

/-- The options by name, each with its letter. -/
def optionNames : List (String × Char) := [
  ("errexit", 'e'),
  ("noglob", 'f'),
  ("ignoreeof", 'I'),
  ("interactive", 'i'),
  ("monitor", 'm'),
  ("noexec", 'n'),
  ("stdin", 's'),
  ("xtrace", 'x'),
  ("verbose", 'v'),
  ("vi", 'V'),
  ("emacs", 'E'),
  ("noclobber", 'C'),
  ("allexport", 'a'),
  ("notify", 'b'),
  ("nounset", 'u'),
  ("privileged", 'p'),
  ("nolog", 'L'),
  ("debug", 'D')]

/-- Turns an option on or off. -/
def switch (isOn : Bool) (letter : Char) : Eval PUnit := do
  if isOn && letter == 'm' then complain "can't access tty; job control turned off".toList
  else modify fun s =>
    let others := s.options.filter (· != letter)
    { s with options := if isOn then letter :: others else others }

/-- All options, for reading or for being read again. -/
def optionList (isOn : Bool) (s : State) : Chars :=
  if isOn then
    ended "Current option settings".toList ++ optionNames.flatMap fun (name, letter) =>
      ended (name.toList ++ List.replicate (16 - name.length) ' ' ++
        (if s.has letter then "on" else "off").toList)
  else
    optionNames.flatMap fun (name, letter) =>
      ended ("set ".toList ++ (if s.has letter then "-o " else "+o ").toList ++ name.toList)

/-- Turns the option with a name on or off; without a name it lists them all. -/
def switchNamed (isOn : Bool) (name? : Option Chars) : Eval Chars := do
  match name? with
  | none => return optionList isOn (← get)
  | some name =>
    match optionNames.lookup (String.ofList name) with
    | some letter =>
      switch isOn letter
      return []
    | none => abandon ("Illegal option -o ".toList ++ name)

/-- Turns options on and off letter by letter, the letters that are left of one argument first:
what is printed, whether a script is asked for, and the arguments after them, if they are to be
taken.  At the start of the interpreter there are a few options more. -/
def switchAll (atStart : Bool) : (isOn : Bool) → Chars → List Chars →
    Eval (Chars × Bool × Option (List Chars))
  | isOn, c :: cs, args => do
    if c = 'o' then
      let text ← switchNamed isOn args.head?
      let (more, asks, left) ← switchAll atStart isOn cs args.tail
      return (text ++ more, asks, left)
    else if atStart && c = 'c' then
      let (text, _, left) ← switchAll atStart isOn cs args
      return (text, true, left)
    else if atStart && c = 'l' then switchAll atStart isOn cs args
    else if State.optionLetters.contains c then
      switch isOn c
      switchAll atStart isOn cs args
    else abandon ("Illegal option -".toList ++ [c])
  | _, [], args =>
    let others (rest : List Chars) : Option (List Chars) :=
      if rest.isEmpty && !atStart then none else some rest
    match args with
    | ['-'] :: rest => do
      if !atStart then
        switch false 'x'
        switch false 'v'
      return ([], false, others rest)
    | ['-', '-'] :: rest => return ([], false, some rest)
    | ('-' :: cs) :: rest => switchAll atStart true cs rest
    | ('+' :: cs) :: rest => switchAll atStart false cs rest
    | rest => return ([], false, others rest)
termination_by _ letters args => letters.length + argumentSize args
decreasing_by
  all_goals
    first
      | (simp only [argumentSize, List.length_cons, List.length_nil]
         omega)
      | (cases args <;>
         simp only [argumentSize, List.length_cons, List.tail_cons, List.tail_nil] <;> omega)

/-- Gives a script other arguments. -/
def setArguments (args : List Chars) : Eval PUnit :=
  modify fun s => { s with arguments := args, optionIndex := 1, optionOffset := none }

/-- Turns options on and off and sets the arguments; without arguments it shows the variables. -/
def setAll : Builtin := fun args => do
  if args.isEmpty then
    saying ((byName (← get).stored).flatMap fun (name, v) =>
      if v.value?.isSome then shownAssignment [] name v.value? else [])
  else
    let (text, _, others) ← switchAll false true [] args
    match others with
    | some given => setArguments given
    | none => pure ()
    saying text

/-- Drops the first arguments. -/
def shiftArguments : Builtin := fun args => do
  let n ← match args with
    | [] => pure 1
    | w :: _ => numberIn w
  let s ← get
  if s.arguments.length < n then abandon "can't shift that many".toList
  setArguments (s.arguments.drop n)
  leaving 0

/-! ## 2. Options of the script -/

/-- Gives a variable a value without noting the change. -/
def assignQuietly (name value : Chars) : Eval PUnit := do
  let s ← get
  let v := (s.stored? name).getD {}
  if v.isReadOnly then abandon (name ++ ": is read only".toList)
  else set (s.withVariable name { v with value? := some value })

/-- Gives a variable a value if it has the name of one. -/
def assignNamed (name value : Chars) : Eval PUnit :=
  if isName name then assign name value else abandonName name

/-- What the next option is: what is left of its argument, the number of arguments taken, and
nothing if there are no more options. -/
def nextOption (given : List Chars) (index : Nat) (offset : Option Nat) :
    Option Chars × Nat :=
  let left := match offset with
    | some k => if index ≤ 1 then [] else ((given[index - 2]?).getD []).drop k
    | none => []
  if !left.isEmpty then (some left, index - 1)
  else
    match given[index - 1]? with
    | some ['-', '-'] => (none, index)
    | some ('-' :: c :: cs) => (some (c :: cs), index)
    | _ => (none, index - 1)

/-- Sets the variable of an option to a value, or takes it away with a message. -/
def noteOption (isSilent : Bool) (letter : Char) (message : Chars) : Eval PUnit := do
  if isSilent then assign "OPTARG".toList [letter]
  else
    warn message
    unsetVariable "OPTARG".toList

/-- Takes the next option out of the script's arguments or of others. -/
def getopts : Builtin := fun args => do
  let (_, args) ← optionsOf "" args
  match args with
  | known :: name :: more =>
    let s ← get
    let given := if more.isEmpty then s.arguments else more
    let (index, offset) :=
      if s.optionIndex > given.length + 1 then (1, none) else (s.optionIndex, s.optionOffset)
    let isSilent := known.head? = some ':'
    let finish (letter : Char) (taken : Nat) (left : Chars) (status : Nat) : Eval Outcome := do
      assignQuietly "OPTIND".toList (State.decimal (taken + 1))
      assignNamed name [letter]
      let offset := if left.isEmpty then none
        else some (((given[taken - 1]?).getD []).length - left.length)
      modify fun s => { s with optionIndex := taken + 1, optionOffset := offset }
      leaving status
    match nextOption given index offset with
    | (none, taken) => finish '?' taken [] 1
    | (some [], taken) => finish '?' taken [] 1
    | (some (c :: cs), taken) =>
      match optionKind? known c with
      | none =>
        noteOption isSilent c ("Illegal option -".toList ++ [c])
        finish '?' taken cs 0
      | some false =>
        assign "OPTARG".toList []
        finish c taken cs 0
      | some true =>
        match cs, given[taken]? with
        | [], none =>
          noteOption isSilent c ("No arg for -".toList ++ c :: " option".toList)
          finish (if isSilent then ':' else '?') taken [] 0
        | [], some value =>
          assign "OPTARG".toList value
          finish c (taken + 1) [] 0
        | value, _ =>
          assign "OPTARG".toList value
          finish c taken [] 0
  | _ => abandon "Usage: getopts optstring var [arg...]".toList

end LintRun.Shell
