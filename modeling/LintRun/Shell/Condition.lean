import LintRun.Machine.World
import LintRun.Shell.Arithmetic

/-!
# Conditions

The language of the interpreter's own `test`: properties of texts, numbers and files, combined
by `!`, `-a`, `-o` and brackets.  Whether a word is an operator depends on the words after it,
so that any text can be compared.
-/

namespace LintRun.Shell.Condition

/-- What a word is in its place. -/
inductive Sign
  | ending
  | operand
  | unary
  | binary
  | negation
  | both
  | either
  | openBracket
  | closeBracket
  deriving DecidableEq, Inhabited

/-- The operators with one operand. -/
def unaryOperators : List String := [
  "-r", "-w", "-x", "-e", "-f", "-d", "-c", "-b", "-p", "-u", "-g", "-k", "-s", "-t", "-z", "-n",
  "-h", "-O", "-G", "-L", "-S"]

/-- The operators with two operands. -/
def binaryOperators : List String := [
  "=", "!=", "<", ">", "-eq", "-ne", "-ge", "-gt", "-le", "-lt", "-nt", "-ot", "-ef"]

/-- What a word by itself is. -/
def signOf (w : Chars) : Sign :=
  let s := String.ofList w
  if unaryOperators.contains s then .unary
  else if binaryOperators.contains s then .binary
  else
    match s with
    | "!" => .negation
    | "-a" => .both
    | "-o" => .either
    | "(" => .openBracket
    | ")" => .closeBracket
    | _ => .operand

/-- Whether a word must be an operand because of what follows it. -/
def isOperand (more : List Chars) : Bool :=
  match more with
  | [] => true
  | [_] => false
  | w :: _ => signOf w = .binary

/-- What the first of some words is. -/
def sign : List Chars → Sign
  | [] => .ending
  | w :: more =>
    match signOf w with
    | .unary => if isOperand more then .operand else .unary
    | .openBracket => if more.isEmpty then .operand else .openBracket
    | s => s

/-- What is wrong with a condition. -/
abbrev Checked := Except Chars

/-- A message about a word. -/
def wrong {α : Type} (w : Chars) (message : String) : Checked α :=
  .error (if w.isEmpty then message.toList else w ++ ": ".toList ++ message.toList)

/-- The number that a word is. -/
def number (w : Chars) : Checked Int :=
  match Arithmetic.decimal? w with
  | some n => .ok n
  | none => .error ("Illegal number: ".toList ++ w)

section

/- The files. -/
variable (t : Tree)

/-- What a file that takes everything is told by. -/
def isDevice (p : Place) : Bool := World.deviceNames.contains p.names

/-- A property of one text, or of the file it names. -/
def unaryHolds (op text : Chars) : Checked Bool :=
  let path := Path.ofChars text
  let file := (t.locate true path).toOption
  let node : Option Node := file.map (·.node)
  let isDevice : Bool := (file.map isDevice).getD false
  match String.ofList op with
  | "-n" => .ok (!text.isEmpty)
  | "-z" => .ok text.isEmpty
  | "-e" | "-r" | "-w" | "-O" | "-G" => .ok node.isSome
  | "-f" => .ok (match node with | some (.file _) => !isDevice | _ => false)
  | "-d" => .ok (match node with | some (.directory _) => true | _ => false)
  | "-c" => .ok isDevice
  | "-x" => .ok (match node with
    | some (.file f) => f.executable
    | some (.directory _) => true
    | _ => false)
  | "-s" => .ok (match node with
    | some (.file f) => !f.content.isEmpty
    | some (.directory _) => true
    | _ => false)
  | "-h" | "-L" => .ok (match t.lstat? path with
    | some (.link _) => true
    | _ => false)
  | "-u" => .ok (match node with | some (.file f) => f.mode &&& 0o4000 != 0 | _ => false)
  | "-g" => .ok (match node with | some (.file f) => f.mode &&& 0o2000 != 0 | _ => false)
  | "-k" => .ok (match node with | some (.file f) => f.mode &&& 0o1000 != 0 | _ => false)
  | "-t" => (number text).map fun _ => false
  | _ => .ok false

/-- When the file at a path was changed. -/
def changed? (text : Chars) : Option Int :=
  match t.stat? (.ofChars text) with
  | some (.file f) => some f.modified
  | some _ => some 0
  | none => none

/-- A relation between two texts, numbers or files. -/
def binaryHolds (a op b : Chars) : Checked Bool := do
  let numbers (r : Int → Int → Bool) : Checked Bool := do
    let x ← number a
    let y ← number b
    return r x y
  let times (r : Int → Int → Bool) : Checked Bool :=
    match changed? t a, changed? t b with
    | some x, some y => .ok (r x y)
    | _, _ => .ok false
  match String.ofList op with
  | "=" => return a == b
  | "!=" => return a != b
  | "<" => return decide (a < b)
  | ">" => return decide (b < a)
  | "-eq" => numbers (· == ·)
  | "-ne" => numbers (· != ·)
  | "-lt" => numbers fun x y => x < y
  | "-le" => numbers fun x y => x ≤ y
  | "-gt" => numbers fun x y => y < x
  | "-ge" => numbers fun x y => y ≤ x
  | "-nt" => times fun x y => y < x
  | "-ot" => times fun x y => x < y
  | _ =>
    let names (w : Chars) : Option (List Name) :=
      ((t.locate true (.ofChars w)).toOption).map (·.names)
    return (names a).isSome && names a == names b

mutual

/-- Conditions joined by `-o`; the words that are handed back start with the last one used. -/
def disjunction : Nat → Sign → List Chars → Checked (Bool × List Chars)
  | 0, _, ws => .ok (false, ws)
  | n + 1, s, ws => do
    let (a, ws) ← conjunction n s ws
    if sign (ws.drop 1) = .either then
      let (b, ws) ← disjunction n (sign (ws.drop 2)) (ws.drop 2)
      return (a || b, ws)
    else return (a, ws)

/-- Conditions joined by `-a`. -/
def conjunction : Nat → Sign → List Chars → Checked (Bool × List Chars)
  | 0, _, ws => .ok (false, ws)
  | n + 1, s, ws => do
    let (a, ws) ← negation n s ws
    if sign (ws.drop 1) = .both then
      let (b, ws) ← conjunction n (sign (ws.drop 2)) (ws.drop 2)
      return (a && b, ws)
    else return (a, ws)

/-- A condition with signs of negation before it. -/
def negation : Nat → Sign → List Chars → Checked (Bool × List Chars)
  | 0, _, ws => .ok (false, ws)
  | n + 1, s, ws => do
    if s != .negation then primary n s ws
    else
      let next := sign (ws.drop 1)
      let (a, ws) ← negation n next (if next = .ending then ws else ws.drop 1)
      return (!a, ws)

/-- One condition. -/
def primary : Nat → Sign → List Chars → Checked (Bool × List Chars)
  | 0, _, ws => .ok (false, ws)
  | n + 1, s, ws =>
    match s, ws with
    | .ending, ws => .ok (false, ws)
    | .openBracket, ws => do
      let inside := ws.drop 1
      if sign inside = .closeBracket then return (false, inside)
      let (a, ws) ← disjunction n (sign inside) inside
      let ws := ws.drop 1
      if sign ws != .closeBracket then wrong [] "closing paren expected"
      else return (a, ws)
    | .unary, op :: ws => do
      match ws with
      | [] => wrong op "argument expected"
      | text :: _ => return (← unaryHolds t op text, ws)
    | _, a :: ws => do
      match sign ws, ws with
      | .binary, [op] => wrong op "argument expected"
      | .binary, op :: b :: more => return (← binaryHolds t a op b, b :: more)
      | _, _ => return (!a.isEmpty, a :: ws)
    | _, [] => .ok (false, [])

end

/-- Whether a condition holds that is read as its signs ask for. -/
def whole (s : Sign) (words : List Chars) : Checked Bool := do
  let (a, ws) ← disjunction t (4 * words.length + 8) s words
  match ws with
  | w :: _ :: _ => wrong w "unexpected operator"
  | _ => return a

/-- Whether a condition holds; few words are read by their number. -/
def holds : List Chars → Checked Bool
  | [] => .ok false
  | ws@(first :: rest) =>
    let bracketed := first = ['('] && rest.getLast? = some [')']
    let special := ws.length = 3 || ws.length = 4
    if ws.length = 3 && (rest.head?.map signOf) = some .binary then whole t .operand ws
    else if special && bracketed then whole t (sign rest.dropLast) rest.dropLast
    else if special && first = ['!'] then (holds rest).map (!·)
    else whole t (sign ws) ws

end

end LintRun.Shell.Condition
