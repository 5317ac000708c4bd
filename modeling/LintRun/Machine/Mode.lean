import LintRun.Text.Digits
import LintRun.Text.Octets
import LintRun.Text.Pieces

/-!
# Permission bits

How permission bits are written: in octal, as nine letters, or as changes such as `u+x,go=r`.

* `ModeChange.read?` reads changes;
* `ModeChange.applyAll` applies them.
-/

namespace LintRun

/-- Whom a change is about: the owner, the group, the others. -/
def classShift? (c : Char) : Option Nat :=
  match c with
  | 'u' => some 6
  | 'g' => some 3
  | 'o' => some 0
  | _ => none

/-- The bits that a class of users may have, the special one included. -/
def classBits (c : Char) : Nat :=
  match c with
  | 'u' => 0o4700
  | 'g' => 0o2070
  | 'o' => 0o1007
  | _ => 0o7777

/-- What a change is about. -/
inductive ModeBits
  /-- Bits for all classes. -/
  | bits (n : Nat)
  /-- The permission to start, if it is a directory or somebody may start it already. -/
  | startIfAny (n : Nat)
  /-- What a class may do already. -/
  | sameAs (c : Char)
  /-- All bits, octal. -/
  | whole (n : Nat)
  deriving DecidableEq, Inhabited

/-- A change of permission bits: for some classes, with an operator. -/
structure ModeChange where
  classes : Chars
  operator : Char
  value : ModeBits
  deriving Inhabited

namespace ModeChange

/-- The bits that a letter stands for. -/
def letterBits (c : Char) : Nat :=
  match c with
  | 'r' => 0o444
  | 'w' => 0o222
  | 'x' => 0o111
  | 's' => 0o6000
  | 't' => 0o1000
  | _ => 0

/-- Whether a character is an operator. -/
def isOperator (c : Char) : Bool := c == '+' || c == '-' || c == '='

/-- The changes that follow the classes of a clause. -/
def readActions (classes : Chars) : Nat → Chars → Option (List ModeChange)
  | 0, _ => none
  | _, [] => some []
  | n + 1, c :: cs =>
    if !isOperator c then none
    else
      let body := cs.takeWhile (!isOperator ·)
      let change (value : ModeBits) : Option (List ModeChange) :=
        (readActions classes n (cs.drop body.length)).map (⟨classes, c, value⟩ :: ·)
      match body with
      | [d] => if (classShift? d).isSome then change (.sameAs d) else plain body change
      | body =>
        if !body.isEmpty && body.all (fun d => '0' ≤ d && d ≤ '7') && classes.isEmpty then
          change (.whole (numberOf 8 body))
        else plain body change
where
  plain (body : Chars) (change : ModeBits → Option (List ModeChange)) :
      Option (List ModeChange) :=
    if !body.all ("rwxXst".toList.contains ·) then none
    else
      let bits := (body.map letterBits).foldl (· ||| ·) 0
      change (if body.contains 'X' then .startIfAny bits else .bits bits)

/-- The changes that a text writes. -/
def read? (text : Chars) : Option (List ModeChange) :=
  if text.isEmpty then none
  else if text.all fun c => '0' ≤ c && c ≤ '7' then
    if numberOf 8 text ≤ 0o7777 then some [⟨[], '=', .whole (numberOf 8 text)⟩] else none
  else
    (((pieces (· == ',') text).mapM fun (clause : Chars) =>
      let classes := clause.takeWhile ("ugoa".toList.contains ·)
      let rest := clause.drop classes.length
      if rest.isEmpty then none else readActions classes (rest.length + 1) rest)).map List.flatten

/-- Applies a change; without classes the bits that new files do not get stay out of it. -/
def apply (mask : Nat) (isDirectory : Bool) (mode : Nat) (m : ModeChange) : Nat :=
  match m.value with
  | .whole n =>
    match m.operator with
    | '+' => mode ||| n
    | '-' => mode &&& (0o7777 ^^^ n)
    | _ => if isDirectory then n ||| (mode &&& 0o6000) else n
  | value =>
    let asked := match value with
      | .bits n => n
      | .startIfAny n => if isDirectory || mode &&& 0o111 != 0 then n ||| 0o111 else n
      | .sameAs c =>
        let three := (mode >>> (classShift? c).getD 0) &&& 7
        three ||| (three <<< 3) ||| (three <<< 6)
      | .whole n => n
    let reach := if m.classes.isEmpty then 0o7777 &&& (0o7777 ^^^ mask)
      else (m.classes.map classBits).foldl (· ||| ·) 0
    let asked := asked &&& reach
    match m.operator with
    | '+' => mode ||| asked
    | '-' => mode &&& (0o7777 ^^^ asked)
    | _ =>
      let covered := if m.classes.isEmpty then 0o7777
        else (m.classes.map classBits).foldl (· ||| ·) 0
      let kept := if isDirectory then 0o6000 else 0
      (mode &&& ((0o7777 ^^^ covered) ||| kept)) ||| asked

/-- Applies changes one after another. -/
def applyAll (mask : Nat) (isDirectory : Bool) (mode : Nat) (ms : List ModeChange) : Nat :=
  ms.foldl (apply mask isDirectory) mode

end ModeChange

/-- Permission bits as nine letters. -/
def modeLetters (mode : Nat) : Chars :=
  let has (bit : Nat) : Bool := mode &&& bit != 0
  let three (shift special : Nat) (low high : Char) : Chars :=
    let bits := mode >>> shift
    let x : Char := match bits &&& 1 != 0, has special with
      | true, true => low
      | false, true => high
      | true, false => 'x'
      | false, false => '-'
    [if bits &&& 4 != 0 then 'r' else '-', if bits &&& 2 != 0 then 'w' else '-', x]
  three 6 0o4000 's' 'S' ++ three 3 0o2000 's' 'S' ++ three 0 0o1000 't' 'T'

/-- A number in octal. -/
def octalDigits (n : Nat) : Chars := Nat.toDigits 8 n

/-- Permission bits as four octal digits. -/
def modeDigits (mode : Nat) : Chars :=
  let ds := octalDigits mode
  List.replicate (4 - ds.length) '0' ++ ds

end LintRun
