/-
# Bytes as characters

Programs that treat text byte by byte work on characters below 256, each of which stands for
one byte.
-/
namespace LintRun

/-- A text whose characters stand for bytes. -/
abbrev Chars := List Char

/-- The characters that stand for bytes. -/
def ofOctets (bytes : List UInt8) : List Char := bytes.map fun b => Char.ofNat b.toNat

/-- The bytes that characters stand for. -/
def toOctets (cs : List Char) : List UInt8 := cs.map fun c => UInt8.ofNat c.toNat

end LintRun
