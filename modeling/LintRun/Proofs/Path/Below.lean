import LintRun.Proofs.Path.Resolve
import LintRun.Proofs.Text.Utf8

/-!
# Paths below a directory

What leads from a directory to a path below it, read from the directory, is the path again
(`resolve_below`).

The parts of a text are text (`isText_of_mem_parts`), and settling makes no parts up: it leaves
some of a stack and puts parts of the path on top of it (`BuiltOver`).  So what a text leads to
from a directory is text below the directory (`isValid_of_resolve`), whatever the directory is.

The second half is about what survives being printed as text and read again.  Parts are cut at
slashes, which are ASCII, so cutting and reading as UTF-8 do not get into each other's way: a
byte string is text exactly if each of its parts is.  The directory need not be text, so the
statement cannot be that the whole path is; it is about what lies below, and for this one has
to know which parts on the stack came from the directory.  `BuiltOver` keeps them apart through
the fold: an `up` may take away parts of the directory, but what is pushed afterwards stands
above the rest.  Where the path that comes out lies below the directory, nothing of the
directory can be missing, and all that is above it was pushed (`BuiltOver.isText`).
-/

namespace LintRun

namespace Path

variable {p root rel : Path}

/-! ## 1. Below a directory

Being below is by parts: `/src-old` does not lie below `/src`. -/

theorem below?_eq_some_iff :
    p.below? root = some rel ↔
      ∃ qs, p.parts = root.parts ++ qs ∧ (⟨joinParts qs⟩ : Path) = rel := by
  rw [below?]
  constructor
  · intro h
    split at h
    · rename_i hbase
      obtain ⟨qs, hqs⟩ := List.isPrefixOf_iff_prefix.mp hbase
      refine ⟨qs, hqs.symm, ?_⟩
      rw [← hqs, List.drop_left] at h
      exact Option.some.inj h
    · cases h
  · rintro ⟨qs, hqs, rfl⟩
    rw [if_pos (List.isPrefixOf_iff_prefix.mpr ⟨qs, hqs.symm⟩), hqs, List.drop_left]

/-- A normal form is `.`, or its parts are settled. -/
theorem IsNormal.parts_cases (h : p.IsNormal) :
    p.parts = [.here] ∨ p.parts ≠ [] ∧ Settled p.parts := by
  have hsettled := settled_settle p
  have hparts := parts_ofParts hsettled
  rw [show ofParts (settle p.parts) = p from h] at hparts
  split at hparts
  · exact .inl hparts
  · rename_i hne
    rw [hparts]
    exact .inr ⟨hne, hsettled⟩

/-- Behind the first of settled parts any may stand anywhere. -/
theorem isStep_of_settled_cons {q : Part} {qs : List Part} (h : Settled (q :: qs)) :
    ∀ r ∈ qs, IsStep r := by
  obtain ⟨base, names, heq, hbase, hnames⟩ := h
  have hname {r : Part} (hr : r ∈ names.map Part.name) : IsStep r := by
    obtain ⟨n, hn, rfl⟩ := List.mem_map.mp hr
    exact hnames n hn
  rcases hbase with rfl | ⟨k, rfl⟩
  · obtain ⟨-, rfl⟩ := List.cons.inj heq
    exact fun r hr => hname hr
  · intro r hr
    have hmem := List.mem_cons_of_mem q hr
    rw [heq, List.mem_append] at hmem
    rcases hmem with hup | hr
    · rw [List.eq_of_mem_replicate hup]
      trivial
    · exact hname hr

/-- **The parts of a path below a directory**: those of the directory, and then others that
may stand anywhere. -/
theorem parts_below (hroot : root.IsNormal) (hp : p.IsNormal)
    (hbelow : p.below? root = some rel) (hne : rel.bytes ≠ []) :
    p.parts = root.parts ++ rel.parts ∧ rel.bytes = joinParts rel.parts ∧
      (∀ q ∈ rel.parts, IsStep q) ∧ Settled p.parts := by
  obtain ⟨qs, hqs, rfl⟩ := below?_eq_some_iff.mp hbelow
  cases qs with
  | nil => exact absurd rfl hne
  | cons r rs =>
    obtain ⟨top, tops, htop⟩ : ∃ top tops, root.parts = top :: tops := by
      refine List.exists_cons_of_ne_nil ?_
      rcases hroot.parts_cases with h | ⟨h, -⟩
      · rw [h]
        nofun
      · exact h
    have hsettled : Settled p.parts := by
      rcases hp.parts_cases with h | ⟨-, h⟩
      · rw [h, htop] at hqs
        simp at hqs
      · exact h
    have hsteps : ∀ q ∈ r :: rs, IsStep q := by
      rw [hqs, htop] at hsettled
      exact fun q hq => isStep_of_settled_cons hsettled q (List.mem_append_right _ hq)
    rw [parts_joinParts hsteps]
    exact ⟨hqs, rfl, hsteps, hsettled⟩

/-- **What leads to a path below a directory**, read from the directory, is the path. -/
theorem resolve_below (hroot : root.IsNormal) (hp : p.IsNormal)
    (hbelow : p.below? root = some rel) (hne : rel.bytes ≠ []) : root.resolve rel = p := by
  obtain ⟨hparts, -, hsteps, -⟩ := parts_below hroot hp hbelow hne
  have hrel : rel.isAbsolute = false := by
    rw [Bool.eq_false_iff, Ne, ← root_mem_parts]
    exact fun h => hsteps .root h
  show ofParts (settle (root.join rel).parts) = p
  rw [settle_parts_join hrel, ← hparts]
  exact hp

/-! ## 2. Parts that are text

The root and a `here` are text, so only names can be anything else. -/

/-- A part whose bytes are those of a text. -/
def IsText (q : Part) : Prop := Utf8.isValid (partBytes q) = true

theorem isText_root : IsText .root := rfl

theorem isText_here : IsText .here := by
  unfold IsText partBytes
  decide

theorem isValid_append_slash (xs ys : List UInt8) :
    Utf8.isValid (xs ++ slash :: ys) = (Utf8.isValid xs && Utf8.isValid ys) :=
  Utf8.isValid_append_ascii xs (by decide) ys

/-- What is cut from a text at slashes is text. -/
theorem isValid_of_mem_pieces {bs piece : List UInt8} (h : Utf8.isValid bs = true)
    (hpiece : piece ∈ pieces isSlash bs) : Utf8.isValid piece = true := by
  induction bs using pieces_induction isSlash with
  | free xs hxs =>
    rw [pieces_of_free hxs, List.mem_singleton] at hpiece
    rwa [hpiece]
  | cut xs c ys hxs hc ih =>
    obtain rfl : c = slash := by simpa [isSlash] using hc
    rw [isValid_append_slash, Bool.and_eq_true] at h
    rw [pieces_append_break hxs hc, List.mem_cons] at hpiece
    rcases hpiece with rfl | hpiece
    · exact h.1
    · exact ih h.2 hpiece

/-- A part is spelled as the stretch that it was read from. -/
theorem partBytes_of_innerPart {piece : Name} {q : Part} (h : innerPart piece = some q) :
    partBytes q = piece := by
  unfold innerPart at h
  split at h
  · cases h
  split at h
  · cases h
  split at h
  · cases h
    exact (‹piece = [dot, dot]›).symm
  · cases h
    rfl

/-- **The parts of a text** are text. -/
theorem isText_of_mem_parts (h : Utf8.isValid p.bytes = true) {q : Part} (hq : q ∈ p.parts) :
    IsText q := by
  rw [parts_eq, List.mem_append] at hq
  rcases hq with hq | hq
  · rcases leadingPart_cases p with hlead | hlead | hlead
    · rw [hlead, List.mem_singleton] at hq
      exact hq ▸ isText_root
    · rw [hlead, List.mem_singleton] at hq
      exact hq ▸ isText_here
    · rw [hlead] at hq
      exact absurd hq List.not_mem_nil
  · obtain ⟨piece, hpiece, hin⟩ := List.mem_filterMap.mp hq
    rw [IsText, partBytes_of_innerPart hin]
    exact isValid_of_mem_pieces h hpiece

/-- What parts are spelled like is a text exactly if each of them is. -/
theorem isValid_joinParts {qs : List Part} :
    Utf8.isValid (joinParts qs) = true ↔ ∀ q ∈ qs, IsText q := by
  induction qs with
  | nil => exact iff_of_true rfl nofun
  | cons q qs ih =>
    cases qs with
    | nil =>
      rw [List.forall_mem_singleton]
      rfl
    | cons r rs =>
      rw [show joinParts (q :: r :: rs) = partBytes q ++ slash :: joinParts (r :: rs) from rfl,
        isValid_append_slash, Bool.and_eq_true, ih]
      exact (List.forall_mem_cons (p := IsText)).symm

/-! ## 3. What settling leaves

The stacks are kept with the last part first, and what is left of the directory is at their
end. -/

/-- **A stack that is built over another**: on top are parts that are text, and below them is
what is left of the other. -/
def BuiltOver (base kept : List Part) : Prop :=
  ∃ top left, kept = top ++ left ∧ (∀ q ∈ top, IsText q) ∧ left <:+ base

variable {base kept : List Part}

theorem BuiltOver.of_suffix (h : kept <:+ base) : BuiltOver base kept :=
  ⟨[], kept, rfl, nofun, h⟩

theorem BuiltOver.push {q : Part} (h : BuiltOver base kept) (hq : IsText q) :
    BuiltOver base (q :: kept) := by
  obtain ⟨top, left, rfl, htop, hleft⟩ := h
  exact ⟨q :: top, left, rfl, List.forall_mem_cons.mpr ⟨hq, htop⟩, hleft⟩

/-- A pop takes a part from the top, or if there is none, one more of the other stack. -/
theorem BuiltOver.pop {q : Part} (h : BuiltOver base (q :: kept)) : BuiltOver base kept := by
  obtain ⟨top, left, heq, htop, hleft⟩ := h
  cases top with
  | nil =>
    rw [List.nil_append] at heq
    rw [← heq] at hleft
    exact ⟨[], kept, rfl, nofun, (List.suffix_cons q kept).trans hleft⟩
  | cons r top =>
    obtain ⟨-, rfl⟩ := List.cons.inj heq
    exact ⟨top, left, rfl, fun q hq => htop q (List.mem_cons_of_mem _ hq), hleft⟩

/-- **One step** of settling. -/
theorem BuiltOver.settleStep {q : Part} (h : BuiltOver base kept) (hq : IsText q) :
    BuiltOver base (settleStep kept q) := by
  cases q with
  | here => exact h
  | root => exact h.push hq
  | name n => exact h.push hq
  | up =>
    cases kept with
    | nil => exact h.push hq
    | cons r kept =>
      cases r with
      | name n => exact h.pop
      | root => exact h
      | here => exact h.push hq
      | up => exact h.push hq

/-- By induction on the parts, as a step keeps what is built. -/
theorem BuiltOver.foldl {steps : List Part} (h : BuiltOver base kept)
    (hs : ∀ q ∈ steps, IsText q) : BuiltOver base (steps.foldl Path.settleStep kept) := by
  induction steps generalizing kept with
  | nil => exact h
  | cons q steps ih =>
    exact ih (h.settleStep (hs q List.mem_cons_self))
      fun r hr => hs r (List.mem_cons_of_mem _ hr)

/-- What is longer than what is left of the other stack is text. -/
theorem BuiltOver.isText {qs : List Part} (h : BuiltOver base (qs ++ base)) :
    ∀ q ∈ qs, IsText q := by
  obtain ⟨top, left, heq, htop, hleft⟩ := h
  have hlength := congrArg List.length heq
  rw [List.length_append, List.length_append] at hlength
  have hbelow : qs <+: top :=
    List.prefix_of_prefix_length_le ⟨base, rfl⟩ ⟨left, heq.symm⟩
      (by have := hleft.length_le; omega)
  exact fun q hq => htop q (List.IsPrefix.subset hbelow hq)

/-- A normal form is settled already, and a single `here` leaves nothing on the stack. -/
theorem foldl_parts_of_isNormal (h : root.IsNormal) :
    root.parts.foldl settleStep [] <:+ root.parts.reverse := by
  rcases h.parts_cases with hhere | ⟨-, hsettled⟩
  · rw [hhere]
    exact List.nil_suffix
  · have hstack := List.reverse_eq_iff.mp (settle_of_settled hsettled)
    exact ⟨[], hstack⟩

/-- A path that is read from a directory is built over the directory. -/
theorem builtOver_join {line : Path} (hroot : root.IsNormal)
    (hline : ∀ q ∈ line.parts, IsText q) :
    BuiltOver root.parts.reverse ((root.join line).parts.foldl settleStep []) := by
  cases habsolute : line.isAbsolute with
  | true =>
    rw [join, if_pos habsolute]
    exact (BuiltOver.of_suffix List.nil_suffix).foldl hline
  | false =>
    rw [List.reverse_inj.mp (settle_parts_join habsolute), List.foldl_append]
    exact (BuiltOver.of_suffix (foldl_parts_of_isNormal hroot)).foldl hline

/-- **A text leads to text**: what a text leads to from a directory has text in every part
below the directory. -/
theorem isValid_of_resolve {line : Path} (hline : Utf8.isValid line.bytes = true)
    (hroot : root.IsNormal) (hbelow : (root.resolve line).below? root = some rel)
    (hne : rel.bytes ≠ []) : Utf8.isValid rel.bytes = true := by
  obtain ⟨hparts, hbytes, -, hsettled⟩ :=
    parts_below hroot (isNormal_normalize (root.join line)) hbelow hne
  have hstack : (root.join line).parts.foldl settleStep [] =
      rel.parts.reverse ++ root.parts.reverse := by
    rw [← List.reverse_append, ← List.reverse_eq_iff, ← hparts]
    exact (settle_parts_normalize _).symm.trans (settle_of_settled hsettled)
  have hlines : ∀ q ∈ line.parts, IsText q := fun q hq => isText_of_mem_parts hline hq
  have hbuilt := builtOver_join hroot hlines
  rw [hstack] at hbuilt
  rw [hbytes, isValid_joinParts]
  exact fun q hq => hbuilt.isText q (List.mem_reverse.mpr hq)

end Path

end LintRun
