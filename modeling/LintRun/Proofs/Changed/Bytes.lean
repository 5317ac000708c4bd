import LintRun.Proofs.Changed.Listing
import LintRun.Proofs.Path.Below

/-!
# Listings as bytes

A listing is printed as bytes and read as text.  Its lines as text are its lines as bytes, each
read as text (`textLines_decodeLossy`): line ends are neither lost nor made up.  But a line that
is no UTF-8 does not stand for its bytes any more, and of the paths that are printed in full a
listing names exactly those that are text (`has_changedPaths_iff`).
-/

namespace LintRun

/-! ## 1. Lines

Reading bytes as text may replace some of them, and the replacements depend on what stands
around.  A line end is one byte below 128, which is read as itself and never as a part of
something longer, so nothing is replaced across a line end; this is what `pieces_shown` takes
from `Utf8`. -/

/-- The bytes that end a line. -/
def isLineEndByte (b : UInt8) : Bool := b == 13 || b == 10

/-- The non-empty lines of a byte string. -/
def byteLines (out : List UInt8) : List (List UInt8) := runs isLineEndByte out

/-- The runs between breaks are the pieces that are not empty. -/
theorem mem_runs_iff {α : Type} {isBreak : α → Bool} {cs line : List α} :
    line ∈ runs isBreak cs ↔ line ∈ pieces isBreak cs ∧ line ≠ [] := by
  rw [runs, List.mem_filter, Bool.not_eq_true', List.isEmpty_eq_false_iff]

theorem isLineEndByte_iff {b : UInt8} : isLineEndByte b = true ↔ b.toNat = 13 ∨ b.toNat = 10 := by
  rw [isLineEndByte, Bool.or_eq_true, beq_iff_eq, beq_iff_eq, ← UInt8.toNat_inj,
    ← UInt8.toNat_inj]
  rfl

theorem isLineEnd_iff {c : Char} : isLineEnd c = true ↔ c.toNat = 13 ∨ c.toNat = 10 := by
  rw [isLineEnd, Bool.or_eq_true, beq_iff_eq, beq_iff_eq, ← Char.toNat_inj, ← Char.toNat_inj]
  rfl

/-- What is free of line ends is shown without any. -/
theorem free_shown {bs : List UInt8} (h : Free isLineEndByte bs) :
    Free isLineEnd (Utf8.shown bs) := by
  intro c hc
  rw [Bool.eq_false_iff, Ne, isLineEnd_iff]
  intro hend
  obtain ⟨b, hb, hbc⟩ := Utf8.mem_of_mem_shown hc (by omega)
  have hbreak := isLineEndByte_iff.mpr (hbc ▸ hend)
  rw [h b hb] at hbreak
  cases hbreak

/-- **Cutting and reading** come to the same in either order. -/
theorem pieces_shown (out : List UInt8) :
    pieces isLineEnd (Utf8.shown out) = (pieces isLineEndByte out).map Utf8.shown := by
  induction out using pieces_induction isLineEndByte with
  | free xs hxs =>
    rw [pieces_of_free hxs, pieces_of_free (free_shown hxs)]
    rfl
  | cut xs c ys hxs hc ih =>
    have hend := isLineEndByte_iff.mp hc
    have hshown : isLineEnd (Utf8.charOf c.toNat) = true := by
      rw [isLineEnd_iff, Utf8.toNat_charOf (.inl (by omega))]
      exact hend
    rw [Utf8.shown_append_ascii xs (by omega), pieces_append_break (free_shown hxs) hshown,
      pieces_append_break hxs hc, ih, List.map_cons]

/-- **The lines of a text** are those of its bytes, each read as text. -/
theorem textLines_decodeLossy (out : List UInt8) :
    textLines (Utf8.decodeLossy out) = (byteLines out).map Utf8.decodeLossy := by
  have hempty (bs : List UInt8) : (!(Utf8.shown bs).isEmpty) = !bs.isEmpty := by
    rw [Bool.eq_iff_iff, Bool.not_eq_true', Bool.not_eq_true', List.isEmpty_eq_false_iff,
      List.isEmpty_eq_false_iff, Ne, Ne, Utf8.shown_eq_nil_iff]
  rw [textLines, Utf8.toList_decodeLossy, runs, pieces_shown, List.filter_map, List.map_map,
    byteLines, runs]
  refine congrArg _ (List.filter_congr fun bs _ => ?_)
  exact hempty bs

/-! ## 2. Paths

One direction is that text is read back as it was written.  For the other, a path that is
no text is read as one with a replacement in it, and that is text, so it is not the path. -/

variable {root p rel : Path} {out : List UInt8}

/-- **A path that is printed in full** is named exactly if it is text. -/
theorem has_changedPaths_iff (hroot : root.IsNormal) (hp : p.IsNormal)
    (hbelow : p.below? root = some rel) (hprinted : rel.bytes ∈ byteLines out) :
    (changedPaths root (Utf8.decodeLossy out)).has p = true ↔ Utf8.isValid rel.bytes = true := by
  have hne : rel.bytes ≠ [] := (mem_runs_iff.mp hprinted).2
  constructor
  · intro hhas
    obtain ⟨line, -, rfl⟩ :=
      mem_changedPaths.mp (PathSet.mem_of_has allNormal_changedPaths hp hhas)
    exact Path.isValid_of_resolve (Utf8.isValid_encode line) hroot hbelow hne
  · intro hvalid
    refine PathSet.has_of_mem (mem_changedPaths.mpr ⟨Utf8.decodeLossy rel.bytes, ?_, ?_⟩)
    · rw [textLines_decodeLossy]
      exact List.mem_map_of_mem hprinted
    · rw [Path.ofString, Utf8.encode_decodeLossy hvalid]
      exact Path.resolve_below hroot hp hbelow hne

end LintRun
