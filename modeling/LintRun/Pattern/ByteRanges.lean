import LintRun.Pattern.CharSet

/-!
# Sets of characters as ranges of bytes

The UTF-8 encodings of a range of characters are those of a few sequences of byte ranges: any
choice of one byte from each range of a sequence encodes one of the characters, and each
character is encoded by one choice.
-/

namespace LintRun.CharSet

/-- First and last bytes of a range. -/
abbrev ByteRange := Nat × Nat

/-- The last code points of the encodings of one, two and three bytes. -/
def encodingEnds : List Nat := [0x7F, 0x7FF, 0xFFFF]

/-- Where a range has to be divided whose ends differ above the last `6 * i` bits: the last
code point of the first part, if the bits below do not run from all zeros to all ones. -/
def unevenAt? (low high i : Nat) : Option Nat :=
  let block := Nat.pow 64 i
  if low / block = high / block then none
  else if low % block ≠ 0 then some (low / block * block + (block - 1))
  else if high % block ≠ block - 1 then some (high / block * block - 1)
  else none

/-- The last code point of the first part of a range that is no single sequence. -/
def division? (low high : Nat) : Option Nat :=
  match encodingEnds.find? fun last => low ≤ last && last < high with
  | some last => some last
  | none => if high < 0x80 then none else [1, 2, 3].findSome? (unevenAt? low high)

/-- The bytes of a code point. -/
def bytesOf (n : Nat) : List Nat := (String.utf8EncodeChar (Char.ofNat n)).map UInt8.toNat

/-- The sequences of the characters from `low` to `high`, in ascending order. -/
def sequencesBetween (low high : Nat) : List (List ByteRange) :=
  match division? low high with
  | none => [(bytesOf low).zip (bytesOf high)]
  | some last =>
    if _h : low ≤ last ∧ last < high then
      sequencesBetween low last ++ sequencesBetween (last + 1) high
    else []
termination_by high - low

/-- The sequences of a set, in ascending order. -/
def sequences (s : CharSet) : List (List ByteRange) :=
  s.ranges.flatMap fun (low, high) => sequencesBetween low high

end LintRun.CharSet
