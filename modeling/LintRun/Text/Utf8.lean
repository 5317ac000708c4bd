/-
# Reading bytes as UTF-8

A byte machine with one pending state: how many continuation bytes are still due, which
range the next one must be in (this excludes overlong forms, surrogates and code points
above U+10FFFF), and the value so far.

* `decode` gives the characters, with `none` for each maximal ill-formed sequence;
* `decodeLossy` writes U+FFFD for those;
* `isValid` says that there are none.
-/
namespace LintRun.Utf8

/-- What the machine waits for in the middle of a character. -/
inductive Pending
  | none
  | due (more low high value : Nat)

/-- The character of a code point, U+FFFD for what is none. -/
def charOf (n : Nat) : Char :=
  if n.isValidChar then Char.ofNat n else '\uFFFD'

/-- A first byte: a character by itself, the start of a longer one, or ill-formed. -/
def start (b : Nat) : Option (Char ⊕ Pending) :=
  if b < 0x80 then some (.inl (charOf b))
  else if b < 0xC2 then none
  else if b < 0xE0 then some (.inr (.due 1 0x80 0xBF (b - 0xC0)))
  else if b < 0xF0 then
    let low := if b = 0xE0 then 0xA0 else 0x80
    let high := if b = 0xED then 0x9F else 0xBF
    some (.inr (.due 2 low high (b - 0xE0)))
  else if b < 0xF5 then
    let low := if b = 0xF0 then 0x90 else 0x80
    let high := if b = 0xF4 then 0x8F else 0xBF
    some (.inr (.due 3 low high (b - 0xF0)))
  else none

/-- Runs the machine; a byte that breaks off a character is then read as a first byte. -/
def decodeFrom : Pending → List UInt8 → List (Option Char)
  | .none, [] => []
  | .due .., [] => [none]
  | .none, b :: bs =>
    match start b.toNat with
    | some (.inl c) => some c :: decodeFrom .none bs
    | some (.inr p) => decodeFrom p bs
    | none => none :: decodeFrom .none bs
  | .due more low high value, b :: bs =>
    if low ≤ b.toNat ∧ b.toNat ≤ high then
      let value := value * 64 + (b.toNat - 0x80)
      if more ≤ 1 then some (charOf value) :: decodeFrom .none bs
      else decodeFrom (.due (more - 1) 0x80 0xBF value) bs
    else
      match start b.toNat with
      | some (.inl c) => none :: some c :: decodeFrom .none bs
      | some (.inr p) => none :: decodeFrom p bs
      | none => none :: none :: decodeFrom .none bs

/-- The characters of a byte string, `none` where it is ill-formed. -/
def decode (bs : List UInt8) : List (Option Char) := decodeFrom .none bs

/-- The text of a byte string, U+FFFD where it is ill-formed. -/
def decodeLossy (bs : List UInt8) : String :=
  String.ofList ((decode bs).map (·.getD '\uFFFD'))

/-- Whether a byte string is well-formed. -/
def isValid (bs : List UInt8) : Bool := (decode bs).all (·.isSome)

/-- The text of a well-formed byte string. -/
def decode? (bs : List UInt8) : Option String :=
  if isValid bs then some (decodeLossy bs) else none

/-- The bytes of a text. -/
def encode (s : String) : List UInt8 := s.toList.flatMap String.utf8EncodeChar

end LintRun.Utf8
