import LintRun.Machine.Directive
import LintRun.Shell.Arithmetic

/-!
# Printed texts of scripts

The interpreter's own `printf`: the format is used again as long as there are arguments, a
missing argument is empty, and an argument that is no number is complained about and counts as
far as it is one.
-/

namespace LintRun.Shell.Printed

/-- What printing has come to. -/
structure Progress where
  /-- What is written, latest first. -/
  written : List Chars := []
  arguments : List Chars
  /-- The complaints, latest first. -/
  complaints : List Chars := []

/-- Why printing stops before the end of the format. -/
inductive Stop
  /-- An argument asked for it. -/
  | asked
  | fault (message : Chars)

namespace Progress

/-- Adds a text. -/
def write (p : Progress) (text : Chars) : Progress := { p with written := text :: p.written }

/-- Takes an argument. -/
def take (p : Progress) : Option Chars × Progress :=
  (p.arguments.head?, { p with arguments := p.arguments.tail })

/-- Adds a complaint about an argument. -/
def complain (p : Progress) (argument : Chars) (message : String) : Progress :=
  { p with complaints := (argument ++ ": ".toList ++ message.toList) :: p.complaints }

/-- Complains about what follows a number in an argument. -/
def check (p : Progress) (argument : Chars) (rest? : Option Chars) (isFit : Bool) : Progress :=
  match rest? with
  | none => if argument.isEmpty then p else p.complain argument "expected numeric value"
  | some (_ :: _) => p.complain argument "not completely converted"
  | some [] => if isFit then p else p.complain argument "Numerical result out of range"

/-- The character after a quote at the start of an argument, as a number. -/
def quoted? (argument : Chars) : Option Nat :=
  match argument with
  | c :: rest => if c == '\'' || c == '"' then some (rest.headD '\x00').toNat else none
  | [] => none

/-- Takes an argument as a number with a sign. -/
def takeSigned (p : Progress) : Int × Progress :=
  match p.take with
  | (none, p) => (0, p)
  | (some a, p) =>
    match quoted? a with
    | some n => (n, p)
    | none =>
      let found := Arithmetic.signed? true a
      let n : Int := (found.map (·.1)).getD 0
      let kept : Int := max (min n Arithmetic.greatest) (-(Arithmetic.greatest : Int) - 1)
      (kept, p.check a (found.map (·.2)) (n == kept))

/-- Takes an argument as a number of 64 bits without a sign. -/
def takeUnsigned (p : Progress) : Nat × Progress :=
  match p.take with
  | (none, p) => (0, p)
  | (some a, p) =>
    match quoted? a with
    | some n => (n, p)
    | none =>
      let found := Arithmetic.signed? true a
      let n : Int := (found.map (·.1)).getD 0
      let isFit := n.natAbs < Arithmetic.wordCount
      let kept := if isFit then (n % (Arithmetic.wordCount : Int)).toNat
        else Arithmetic.wordCount - 1
      (kept, p.check a (found.map (·.2)) isFit)

/-- How many binary digits a real number has. -/
def realBits : Nat := 53

/-- Takes an argument as a real number. -/
def takeReal (p : Progress) : Quantity × Progress :=
  match p.take with
  | (none, p) => (.finite false 0 1, p)
  | (some a, p) =>
    match quoted? a with
    | some n => (.finite false n 1, p)
    | none =>
      let found := Quantity.ofChars? realBits a
      ((found.map (·.1)).getD (.finite false 0 1), p.check a (found.map (·.2)) true)

end Progress

/-- The character that an escape after its backslash stands for, and what follows it. -/
def escape (cs : Chars) : Char × Chars :=
  match cs with
  | [] => ('\\', [])
  | c :: rest =>
    match escapeLetter? c with
    | some d => (d, rest)
    | none =>
      match digitCount 8 3 cs with
      | 0 => ('\\', cs)
      | k => (byteChar (numberOf 8 (cs.take k)), cs.drop k)

/-- A text without its escapes, and whether one of them ends the output. -/
def unescape : Nat → Chars → Chars × Bool
  | 0, cs => (cs, false)
  | _, [] => ([], false)
  | n + 1, '\\' :: cs =>
    let (c, rest) := match cs with
      | '0' :: ds =>
        let k := digitCount 8 3 ds
        (byteChar (numberOf 8 (ds.take k)), ds.drop k)
      | cs => escape cs
    if cs.head? = some 'c' then ([], true)
    else
      let (text, ends) := unescape n rest
      (c :: text, ends)
  | n + 1, c :: cs =>
    let (text, ends) := unescape n cs
    (c :: text, ends)

/-- A text without its escapes, and whether one of them ends the output. -/
def unescaped (cs : Chars) : Chars × Bool := unescape (cs.length + 1) cs

/-- Whether a character is part of a width or a precision. -/
def isCount (c : Char) : Bool := isDecimal c || c == '*'

/-- A width or precision that is written, or comes from an argument. -/
def count (cs : Chars) (p : Progress) : Int × Chars × Progress :=
  match cs with
  | '*' :: rest =>
    let (n, p) := p.takeSigned
    (n, rest, p)
  | cs => (numberOf 10 (cs.takeWhile isCount), cs.dropWhile isCount, p)

/-- Writes an argument as a conversion asks. -/
def convert (d : Directive) (spelled : Chars) (p : Progress) : Progress × Option Stop :=
  let text (p : Progress) : Chars × Progress :=
    match p.take with
    | (a, p) => (a.getD [], p)
  match d.conversion with
  | 's' =>
    let (a, p) := text p
    (p.write (d.text a), none)
  | 'b' =>
    let (a, p) := text p
    let (a, ends) := unescaped a
    (p.write (d.text a), if ends then some .asked else none)
  | 'c' =>
    let (a, p) := text p
    (p.write (d.pad [a.headD '\x00']), none)
  | 'd' | 'i' =>
    let (n, p) := p.takeSigned
    (p.write (d.signed n), none)
  | 'o' | 'u' | 'x' | 'X' =>
    let (n, p) := p.takeUnsigned
    (p.write (d.unsigned n), none)
  | c =>
    if "aAeEfFgG".toList.contains c then
      let (q, p) := p.takeReal
      (p.write (d.real q), none)
    else (p, some (.fault (spelled ++ ": invalid directive".toList)))

/-- Uses a format once. -/
def once : Nat → Chars → Progress → Progress × Option Stop
  | 0, _, p => (p, none)
  | _, [], p => (p, none)
  | n + 1, '\\' :: cs, p =>
    let (c, rest) := escape cs
    once n rest (p.write [c])
  | n + 1, '%' :: '%' :: cs, p => once n cs (p.write ['%'])
  | n + 1, '%' :: cs, p =>
    let flags := cs.takeWhile Directive.isFlag
    let (width, rest, p) := count (cs.dropWhile Directive.isFlag) p
    let (precision, rest, p) := match rest with
      | '.' :: more =>
        let (k, rest, p) := count more p
        (if k < 0 then none else some k.toNat, rest, p)
      | rest => (none, rest, p)
    match rest with
    | [] => (p, some (.fault "missing format character".toList))
    | c :: rest =>
      let spelled := '%' :: cs.take (cs.length - rest.length)
      match convert { flags, width, precision, conversion := c } spelled p with
      | (p, some stop) => (p, some stop)
      | (p, none) => once n rest p
  | n + 1, c :: cs, p => once n cs (p.write [c])

/-- Uses a format as long as there are arguments that it takes. -/
def again (format : Chars) : Nat → Progress → Progress × Option Stop
  | 0, p => (p, none)
  | n + 1, p =>
    match once (format.length + 1) format p with
    | (after, some stop) => (after, some stop)
    | (after, none) =>
      if after.arguments.isEmpty || after.arguments.length == p.arguments.length then (after, none)
      else again format n after

/-- What a format and arguments print: the text, the complaints, and a fault if there is one. -/
def printed (format : Chars) (arguments : List Chars) : Chars × List Chars × Option Chars :=
  let (p, stop) := again format (arguments.length + 1) { arguments }
  (p.written.reverse.flatten, p.complaints.reverse,
    match stop with
    | some (.fault message) => some message
    | _ => none)

end LintRun.Shell.Printed
