import LintRun.Machine.Directive
import LintRun.Machine.Utility.Basic

/-!
# Utilities that write

Programs whose output comes from their arguments alone: texts, formats and rows of numbers.
-/

namespace LintRun.Utility

/-! ## 1. Escapes -/

/-- The byte that digits of a base write, at most so many of them, and what follows them. -/
def numbered (base most : Nat) (cs : Chars) : Chars × Chars :=
  let k := digitCount base most cs
  ([byteChar (numberOf base (cs.take k))], cs.drop k)

/-- What an escape after its backslash stands for, and what follows it; nothing if it ends the
output.  In some texts a zero before the octal digits is no digit. -/
def escapeOf (hasZero : Bool) (cs : Chars) : Option (Chars × Chars) :=
  match cs with
  | [] => some (['\\'], [])
  | c :: rest =>
    match escapeLetter? c with
    | some d => some ([d], rest)
    | none =>
      if c == 'c' then none
      else if c == '"' then some (['"'], rest)
      else if c == 'x' && digitCount 16 2 rest > 0 then some (numbered 16 2 rest)
      else if c == 'u' || c == 'U' then
        let most := if c == 'u' then 4 else 8
        if digitCount 16 most rest = most then
          some (ofOctets (Utf8.encode (String.singleton
            (Char.ofNat (numberOf 16 (rest.take most))))), rest.drop most)
        else some (['\\', c], rest)
      else if hasZero && c == '0' then some (numbered 8 3 rest)
      else if digitCount 8 3 cs > 0 then some (numbered 8 3 cs)
      else some (['\\', c], rest)

/-- A text without its escapes, and whether one of them ends the output. -/
def unescaped (hasZero : Bool) : Nat → Chars → Chars × Bool
  | 0, cs => (cs, false)
  | _, [] => ([], false)
  | n + 1, '\\' :: cs =>
    match escapeOf hasZero cs with
    | none => ([], true)
    | some (text, rest) =>
      let (more, ends) := unescaped hasZero n rest
      (text ++ more, ends)
  | n + 1, c :: cs =>
    let (more, ends) := unescaped hasZero n cs
    (c :: more, ends)

/-- Writes its arguments in a line. -/
def echo : Utility := fun t => do
  let isOption (w : Chars) : Bool :=
    match w with
    | '-' :: c :: cs => (c :: cs).all fun d => d == 'n' || d == 'e' || d == 'E'
    | _ => false
  let letters := (t.arguments.takeWhile isOption).flatten.filter fun c => c == 'e' || c == 'E'
  let hasEnd := !(t.arguments.takeWhile isOption).flatten.contains 'n'
  let text := [' '].intercalate (t.arguments.dropWhile isOption)
  let (text, ends) :=
    if letters.getLast? = some 'e' then
      let (text, ends) := unescaped true (text.length + 1) text
      (text, ends)
    else (text, false)
  print t (if ends || !hasEnd then text else text ++ ['\n'])
  return 0

/-! ## 2. Formats -/

/-- What printing by a format has come to. -/
structure Filling where
  /-- What is written, latest first. -/
  written : List Chars := []
  arguments : List Chars
  complaints : List Chars := []
  /-- Whether an argument was taken. -/
  hasTaken : Bool := false

/-- Why printing stops. -/
inductive FormatStop
  | asked
  | fault (message : Chars)

namespace Filling

/-- Adds a text. -/
def write (f : Filling) (text : Chars) : Filling := { f with written := text :: f.written }

/-- Takes an argument. -/
def take (f : Filling) : Option Chars × Filling :=
  (f.arguments.head?, { f with arguments := f.arguments.tail, hasTaken := true })

/-- Complains about an argument that is no number, or not only one. -/
def check (f : Filling) (argument : Chars) (rest? : Option Chars) (isFit : Bool) : Filling :=
  let complain (message : String) : Filling :=
    { f with complaints := (Quoting.plainly argument ++ ": ".toList ++ message.toList) ::
      f.complaints }
  match rest? with
  | none => complain "expected a numeric value"
  | some rest =>
    if !isFit then complain "Numerical result out of range"
    else if rest.isEmpty then f
    else complain "value not completely converted"

/-- The number of a character after a quote. -/
def quoted? (argument : Chars) : Option Nat :=
  match argument with
  | '\'' :: c :: _ => some c.toNat
  | '"' :: c :: _ => some c.toNat
  | _ => none

/-- The whole number that a text starts with, and what follows it. -/
def whole? (cs : Chars) : Option (Int × Chars) :=
  let cs := cs.dropWhile isBlankChar
  let (negative, ds) := match cs with
    | '-' :: ds => (true, ds)
    | '+' :: ds => (false, ds)
    | ds => (false, ds)
  let (base, ds) := match ds with
    | '0' :: x :: c :: _ =>
      if (x == 'x' || x == 'X') && isDigitOf 16 c then (16, ds.drop 2) else (8, ds)
    | '0' :: _ => (8, ds)
    | _ => (10, ds)
  match ds.takeWhile (isDigitOf base) with
  | [] => none
  | given =>
    let n : Int := numberOf base given
    some (if negative then -n else n, ds.drop given.length)

/-- Takes an argument as a whole number between bounds. -/
def takeWhole (least most : Int) (f : Filling) : Int × Filling :=
  match f.take with
  | (none, f) => (0, f)
  | (some a, f) =>
    match quoted? a with
    | some n => (n, f)
    | none =>
      let found := whole? a
      let n := (found.map (·.1)).getD 0
      let kept := max least (min most n)
      (kept, f.check a (found.map (·.2)) (n == kept))

/-- Takes an argument as a real number. -/
def takeReal (f : Filling) : Quantity × Filling :=
  match f.take with
  | (none, f) => (.finite false 0 1, f)
  | (some a, f) =>
    match quoted? a with
    | some n => (.finite false n 1, f)
    | none =>
      let found := Quantity.ofChars? 64 a
      ((found.map (·.1)).getD (.finite false 0 1), f.check a (found.map (·.2)) true)

end Filling

/-- The least whole number of 64 bits with a sign. -/
def leastWhole : Int := -9223372036854775808

/-- The greatest whole number of 64 bits with a sign. -/
def greatestWhole : Int := 9223372036854775807

/-- How many whole numbers of 64 bits there are. -/
def wholeCount : Int := 18446744073709551616

/-- A width or precision that is written, or comes from an argument. -/
def countIn (cs : Chars) (f : Filling) : Int × Chars × Filling :=
  match cs with
  | '*' :: rest =>
    let (n, f) := f.takeWhole leastWhole greatestWhole
    (n, rest, f)
  | cs => (numberOf 10 (cs.takeWhile isDecimal), cs.dropWhile isDecimal, f)

/-- Writes an argument as a conversion asks. -/
def convert (d : Directive) (spelled : Chars) (f : Filling) : Filling × Option FormatStop :=
  match d.conversion with
  | 's' =>
    let (a, f) := f.take
    (f.write (d.text (a.getD [])), none)
  | 'b' =>
    let (a, f) := f.take
    let a := a.getD []
    let (text, ends) := unescaped true (a.length + 1) a
    (f.write text, if ends then some .asked else none)
  | 'q' =>
    let (a, f) := f.take
    (f.write (Quoting.ifNeeded (a.getD [])), none)
  | 'c' =>
    let (a, f) := f.take
    (f.write (d.pad [(a.getD []).headD '\x00']), none)
  | 'd' | 'i' =>
    let (n, f) := f.takeWhole leastWhole greatestWhole
    (f.write (d.signed n), none)
  | 'o' | 'u' | 'x' | 'X' =>
    let (n, f) := f.takeWhole (1 - wholeCount) (wholeCount - 1)
    (f.write (d.unsigned (n % wholeCount).toNat), none)
  | c =>
    if "aAeEfFgG".toList.contains c then
      let (q, f) := f.takeReal
      (f.write (d.real q), none)
    else (f, some (.fault (spelled ++ ": invalid conversion specification".toList)))

/-- Uses a format once. -/
def fillOnce : Nat → Chars → Filling → Filling × Option FormatStop
  | 0, _, f => (f, none)
  | _, [], f => (f, none)
  | n + 1, '\\' :: cs, f =>
    if cs.head? = some 'x' && digitCount 16 2 (cs.drop 1) = 0 then
      (f, some (.fault "missing hexadecimal number in escape".toList))
    else
      match escapeOf false cs with
      | none => (f, some .asked)
      | some (text, rest) => fillOnce n rest (f.write text)
  | n + 1, '%' :: '%' :: cs, f => fillOnce n cs (f.write ['%'])
  | n + 1, '%' :: cs, f =>
    let isFlag (c : Char) : Bool := Directive.isFlag c || c == '\''
    let flags := cs.takeWhile isFlag
    let (width, rest, f) := countIn (cs.dropWhile isFlag) f
    let (precision, rest, f) := match rest with
      | '.' :: more =>
        let (k, rest, f) := countIn more f
        (if k < 0 then none else some k.toNat, rest, f)
      | rest => (none, rest, f)
    let rest := rest.dropWhile fun c => "hlLjtz".toList.contains c
    let spelled := '%' :: cs.take (cs.length - rest.length + 1)
    match rest with
    | [] => (f, some (.fault (spelled ++ ": invalid conversion specification".toList)))
    | c :: rest =>
      match convert { flags, width, precision, conversion := c } spelled f with
      | (f, some stop) => (f, some stop)
      | (f, none) => fillOnce n rest f
  | n + 1, c :: cs, f => fillOnce n cs (f.write [c])

/-- Uses a format as long as there are arguments that it takes. -/
def fillAgain (format : Chars) : Nat → Filling → Filling × Option FormatStop
  | 0, f => (f, none)
  | n + 1, f =>
    match fillOnce (format.length + 1) format { f with hasTaken := false } with
    | (after, some stop) => (after, some stop)
    | (after, none) =>
      if after.arguments.isEmpty || !after.hasTaken then (after, none)
      else fillAgain format n after

/-- Writes its arguments by a format. -/
def printf : Utility := fun t => do
  let words := match t.arguments with
    | ['-', '-'] :: more => more
    | words => words
  match words with
  | [] => missingOperand t 1
  | format :: args =>
    let (f, stop) := fillAgain format (args.length + 1) { arguments := args }
    for message in f.complaints.reverse do complain t message
    print t f.written.reverse.flatten
    match stop with
    | some (.fault message) =>
      complain t message
      return 1
    | some .asked => return codeOf f.complaints.isEmpty
    | none =>
      match f.arguments with
      | a :: _ =>
        complain t ("warning: ignoring excess arguments, starting with ".toList ++
          Quoting.plainly a)
      | [] => pure ()
      return codeOf f.complaints.isEmpty

/-! ## 3. Numbers in a row -/

/-- A number as it is written: a whole number of units of its last place, how many places it has,
and how wide it is. -/
structure Written where
  units : Int
  places : Nat
  width : Nat

/-- The number that a text writes. -/
def Written.ofChars? (cs : Chars) : Option Written :=
  let cs := cs.dropWhile fun c => isBlankChar c || c == '+'
  let (negative, ds) := match cs with
    | '-' :: ds => (true, ds)
    | ds => (false, ds)
  match Quantity.digits? 10 ds with
  | none => none
  | some (n, places, rest) =>
    let (e, rest) := Quantity.exponent 'e' 'E' rest
    if !rest.isEmpty then none
    else
      let point := ds.contains '.'
      let width := cs.length
      let width := if !point then width else if places = 0 then width - 1
        else if ds.head? = some '.' then width + 1 else width
      let n : Int := if negative then -n else n
      if e ≥ (places : Int) then some ⟨n * Nat.pow 10 (e.toNat - places), 0, width⟩
      else some ⟨n, (places - e).toNat, width⟩

/-- The units of a number in units of a later place. -/
def Written.scaled (w : Written) (places : Nat) : Int := w.units * Nat.pow 10 (places - w.places)

/-- A number of units with a point, at least so wide. -/
def pointed (places width : Nat) (units : Int) : Chars :=
  let body := Quantity.withPoint places units.natAbs false
  let sign : Chars := if units < 0 then ['-'] else []
  sign ++ List.replicate (width - sign.length - body.length) '0' ++ body

/-- The parts of a format with one directive for a real number. -/
def realFormat? (cs : Chars) : Except Chars (Chars × Directive × Chars) :=
  let quoted := "format ".toList ++ Quoting.plainly cs
  let rec textOf : Nat → Chars → Chars × Option Chars
    | 0, cs => (cs, none)
    | _, [] => ([], none)
    | n + 1, '%' :: '%' :: cs => let (a, b) := textOf n cs; ('%' :: a, b)
    | _, '%' :: cs => ([], some cs)
    | n + 1, c :: cs => let (a, b) := textOf n cs; (c :: a, b)
  match textOf (cs.length + 1) cs with
  | (_, none) => .error (quoted ++ " has no % directive".toList)
  | (before, some rest) =>
    let isFlag (c : Char) : Bool := Directive.isFlag c || c == '\''
    let flags := rest.takeWhile isFlag
    let rest := rest.drop flags.length
    let width := rest.takeWhile isDecimal
    let rest := rest.drop width.length
    let (precision, rest) := match rest with
      | '.' :: more =>
        (some (numberOf 10 (more.takeWhile isDecimal)), more.dropWhile isDecimal)
      | rest => (none, rest)
    let rest := rest.dropWhile (· == 'L')
    match rest with
    | [] => .error (quoted ++ " ends in %".toList)
    | c :: rest =>
      if !"aAeEfFgG".toList.contains c then
        .error (quoted ++ " has unknown %".toList ++ [c] ++ " directive".toList)
      else
        match textOf (rest.length + 1) rest with
        | (_, some _) => .error (quoted ++ " has too many % directives".toList)
        | (after, none) =>
          .ok (before, { flags, width := numberOf 10 width, precision, conversion := c }, after)

/-- The terms from a first one to a last one in equal steps. -/
def terms (first step last : Int) : List Int :=
  let count : Int := if step > 0 then (last - first) / step else (first - last) / (-step)
  if (step > 0 && first > last) || (step < 0 && first < last) then []
  else (List.range (count.toNat + 1)).map fun (k : Nat) => first + k * step

/-- The arguments of `seq` that are options, up to the first number. -/
def optionPart : List Chars → List Chars × List Chars
  | [] => ([], [])
  | w :: ws =>
    match w with
    | '-' :: c :: _ =>
      if c == '.' || isDecimal c then ([], w :: ws)
      else if w = ['-', '-'] then ([], ws)
      else if w = ['-', 's'] || w = ['-', 'f'] then (w :: ws.take 1 ++ (optionPart (ws.drop 1)).1,
        (optionPart (ws.drop 1)).2)
      else (w :: (optionPart ws).1, (optionPart ws).2)
    | _ => ([], w :: ws)
termination_by ws => ws.length
decreasing_by
  all_goals
    simp only [List.length_cons, List.length_drop]
    omega

/-- How many numbers of a row without end are written. -/
def endlessRow : Nat := 100000

/-- Writes the numbers of a row. -/
def seq : Utility := fun t => do
  let (options, operands) := optionPart t.arguments
  let fs ← flagsOf { t with arguments := options } 1
    ["f,format=", "s,separator=", "w,equal-width"]
  let number (w : Chars) : Step Written :=
    match Written.ofChars? w with
    | some n => pure n
    | none =>
      misuse t 1 ("invalid floating point argument: ".toList ++ Quoting.plainly w)
  if operands.isEmpty then missingOperand t 1
  match operands.drop 3 with
  | w :: _ => extraOperand t 1 w
  | [] => pure ()
  let format? ← match fs.value? "f" with
    | none => pure none
    | some text =>
      match realFormat? text with
      | .ok f => pure (some f)
      | .error message =>
        complain t message
        Step.exit 1
  let one : Written := ⟨1, 0, 1⟩
  let isEndless := (operands.getLast?.map fun w => w.map Char.toLower) == some "inf".toList
  let (first, step, last) ← match operands with
    | [l] => if isEndless then pure (one, one, one) else do pure (one, one, ← number l)
    | [f, l] => do
      let f ← number f
      pure (f, one, ← if isEndless then pure f else number l)
    | f :: s :: l :: _ => do
      let f ← number f
      let s ← number s
      pure (f, s, ← if isEndless then pure f else number l)
    | [] => pure (one, one, one)
  if step.units = 0 then
    misuse t 1 ("invalid Zero increment value: ".toList ++ Quoting.plainly (operands.getD 1 []))
  let common := max (max first.places step.places) last.places
  let shown := max first.places step.places
  let final := if isEndless then first.scaled common + step.scaled common * endlessRow
    else last.scaled common
  let all := terms (first.scaled common) (step.scaled common) final
  let pointWidth (w : Written) : Nat :=
    w.width + shown - w.places + (if w.places = 0 && shown > 0 then 1 else 0) -
      (if w.places > 0 && shown = 0 then 1 else 0)
  let width := if fs.has "w" then max (pointWidth first) (pointWidth last) else 0
  let text (units : Int) : Chars :=
    match format? with
    | some (before, d, after) =>
      before ++ d.real (.finite (units < 0) units.natAbs (Nat.pow 10 common)) ++ after
    | none => pointed shown width (units / Nat.pow 10 (common - shown))
  let separator := (fs.value? "s").getD ['\n']
  if isEndless then
    for n in all do print t (text n ++ separator)
  else if !all.isEmpty then print t (separator.intercalate (all.map text) ++ ['\n'])
  return 0

/-- How many lines are written for nobody. -/
def endlessLines : Nat := 100000

/-- Writes a line over and over. -/
def yes : Utility := fun t => do
  let words := match t.arguments with
    | ['-', '-'] :: more => more
    | words => words
  let line := (if words.isEmpty then ['y'] else [' '].intercalate words) ++ ['\n']
  for _ in List.range endlessLines do print t line
  Step.act fun w => ((), w.pass (Nat.pow 10 18))
  return 0

/-! ## 4. What a process knows -/

/-- Writes the working directory. -/
def pwd : Utility := fun t => do
  let fs ← flagsOf t 1 ["L,logical", "P,physical"]
  if !fs.operands.isEmpty then complain t "ignoring non-option arguments".toList
  let physical := ofOctets (Path.ofNames t.directory).bytes
  let tree ← Step.act t.tree
  let given := (t.valueOf? "PWD".toList).filter fun p =>
    p.head? == some '/' &&
      ((tree.locate true (.ofChars p)).toOption.map (·.names)) == some t.directory
  printLine t (if fs.last? ["L", "P"] == some "L" then given.getD physical else physical)
  return 0

/-- Writes the values of variables, or all variables. -/
def printenv : Utility := fun t => do
  let fs ← flagsOf t 2 ["0,null"] false
  let finish : Char := if fs.has "0" then '\x00' else '\n'
  if fs.operands.isEmpty then
    print t (t.environment.flatMap fun v => v.1 ++ '=' :: v.2 ++ [finish])
    return 0
  else
    let isThere ← forAll (fun name => do
      match if name.contains '=' then none else t.valueOf? name with
      | some value =>
        print t (value ++ [finish])
        return true
      | none => return false) fs.operands
    return codeOf isThere

end LintRun.Utility
