import LintRun.Proofs.Path.Normal
import Mathlib.Data.List.Induction

/-!
# Reading a path from a directory

Normalizing is a walk over parts with a stack, and parts move any stack as their settled form
does (`foldl_settle`).  A relative path read from a directory has the parts of both, one after
the other (`settle_parts_join`), so what it comes to depends on the two normal forms alone
(`resolve_congr`).

Read from an absolute directory every path is grounded (`isGrounded_resolve`): absolute,
without `.` and `..`, and spelled in the one way there is, so that grounded paths with the
same parts have the same bytes (`IsGrounded.parts_eq_iff`).

Reading a path from a directory joins the two as bytes and normalizes the result.  The join of
bytes is not a function of the parts: an absolute path replaces the directory, and an empty
directory gives no slash.  Both cases are taken care of here once, so that elsewhere one has to
do with parts only.

`foldl_settle` is what makes settled parts as good as the parts they came from, in front of any
others.  It is proved by induction on the parts with the last one taken off, as settling goes
from left to right.
-/

namespace LintRun

namespace Path

variable {p q root rel root' rel' : Path}

/-! ## 1. The parts of a join

A slash between two paths cuts them apart; what the second starts with is then no start any
more. -/

theorem pieces_slash (xs ys : List UInt8) :
    pieces isSlash (xs ++ slash :: ys) = pieces isSlash xs ++ pieces isSlash ys :=
  pieces_append xs ys rfl

theorem inner_slash (xs ys : List UInt8) :
    inner ⟨xs ++ slash :: ys⟩ = inner ⟨xs⟩ ++ inner ⟨ys⟩ := by
  unfold inner
  rw [pieces_slash, List.filterMap_append]

/-- What a path starts with is settled before its first slash. -/
theorem leadingPart_slash {xs : List UInt8} (h : xs ≠ []) (ys : List UInt8) :
    leadingPart ⟨xs ++ slash :: ys⟩ = leadingPart ⟨xs⟩ := by
  have hhead : (xs ++ slash :: ys).head? = xs.head? := List.head?_append_of_ne_nil xs h
  have hpiece : (pieces isSlash (xs ++ slash :: ys)).head? = (pieces isSlash xs).head? := by
    rw [pieces_slash]
    exact List.head?_append_of_ne_nil _ (pieces_ne_nil xs)
  unfold leadingPart isAbsolute
  rw [hhead, hpiece]

/-- The parts after a slash follow those before it. -/
theorem parts_slash {xs : List UInt8} (h : xs ≠ []) (ys : List UInt8) :
    parts ⟨xs ++ slash :: ys⟩ = parts ⟨xs⟩ ++ inner ⟨ys⟩ := by
  rw [parts_eq, parts_eq, leadingPart_slash h, inner_slash, List.append_assoc]

/-- **A join** has the parts of the directory and then those of the relative path, but for
what that starts with. -/
theorem parts_join (h : rel.isAbsolute = false) (hne : root.bytes ≠ []) :
    (root.join rel).parts = root.parts ++ rel.inner := by
  rw [join, if_neg (by rw [h]; exact Bool.false_ne_true)]
  by_cases hlast : root.bytes.getLast? = some slash
  · obtain ⟨xs, hxs⟩ := List.getLast?_eq_some_iff.mp hlast
    rw [if_pos (.inr hlast), hxs, List.append_assoc, List.singleton_append]
    obtain rfl : root = ⟨xs ++ [slash]⟩ := congrArg Path.mk hxs
    by_cases hxs : xs = []
    · rw [hxs]
      rfl
    · rw [parts_slash hxs, parts_slash hxs, show inner ⟨[]⟩ = [] from rfl, List.append_nil]
  · rw [if_neg (not_or.mpr ⟨hne, hlast⟩)]
    exact parts_slash hne rel.bytes

/-! ## 2. Settling one path after another

The stack that one path leaves is where the next one begins. -/

/-- **Settled parts move a stack** as the parts they were settled from. -/
theorem foldl_settle (steps kept : List Part) :
    (settle steps).foldl settleStep kept = steps.foldl settleStep kept := by
  induction steps using List.reverseRecOn with
  | nil => rfl
  | append_singleton steps q ih =>
    unfold settle at ih ⊢
    rw [List.foldl_append, List.foldl_append, ← ih]
    generalize steps.foldl settleStep [] = stack
    show (settleStep stack q).reverse.foldl settleStep kept = settleStep _ q
    have hpush : (q :: stack).reverse.foldl settleStep kept =
        settleStep (stack.reverse.foldl settleStep kept) q := by
      rw [List.reverse_cons, List.foldl_append]
      rfl
    cases q with
    | root => exact hpush
    | name n => exact hpush
    | here => rfl
    | up =>
      cases stack with
      | nil => exact hpush
      | cons top below =>
        have htop : (top :: below).reverse.foldl settleStep kept =
            settleStep (below.reverse.foldl settleStep kept) top := by
          rw [List.reverse_cons, List.foldl_append]
          rfl
        cases top with
        | here => exact hpush
        | up => exact hpush
        | root =>
          rw [htop]
          exact htop
        | name n =>
          rw [htop]
          rfl

/-- What is settled in a row depends on the settled parts only. -/
theorem settle_append_congr {xs xs' ys ys' : List Part} (hx : settle xs = settle xs')
    (hy : settle ys = settle ys') : settle (xs ++ ys) = settle (xs' ++ ys') := by
  unfold settle at hx
  rw [settle, settle, List.foldl_append, List.foldl_append, List.reverse_inj.mp hx,
    ← foldl_settle ys, hy, foldl_settle]

/-- A path that is not absolute moves a stack by its parts without the first `here`. -/
theorem foldl_parts_of_relative (h : rel.isAbsolute = false) (kept : List Part) :
    rel.parts.foldl settleStep kept = rel.inner.foldl settleStep kept := by
  rw [parts_eq, leadingPart, if_neg (by rw [h]; exact Bool.false_ne_true)]
  split
  · rfl
  · rfl

/-- **A join settles** as the parts of both, one after the other; the `here` that the second
may start with is of no effect. -/
theorem settle_parts_join (h : rel.isAbsolute = false) :
    settle (root.join rel).parts = settle (root.parts ++ rel.parts) := by
  rw [settle, settle, List.foldl_append, foldl_parts_of_relative h]
  by_cases hne : root.bytes = []
  · obtain rfl : root = ⟨[]⟩ := congrArg Path.mk hne
    rw [join, if_neg (by rw [h]; exact Bool.false_ne_true), if_pos (.inl rfl)]
    exact congrArg List.reverse (foldl_parts_of_relative h [])
  · rw [parts_join h hne, List.foldl_append]

/-! ## 3. Absolute paths

The root is a part that is never popped. -/

theorem root_mem_settleStep {kept : List Part} {q : Part} :
    .root ∈ settleStep kept q ↔ .root ∈ kept ∨ q = .root := by
  cases q with
  | root => simp [settleStep]
  | here => simp [settleStep]
  | name n => simp [settleStep]
  | up =>
    cases kept with
    | nil => simp [settleStep]
    | cons top below => cases top <;> simp [settleStep]

theorem root_mem_foldl {steps kept : List Part} :
    .root ∈ steps.foldl settleStep kept ↔ .root ∈ kept ∨ .root ∈ steps := by
  induction steps generalizing kept with
  | nil => simp
  | cons q steps ih =>
    rw [List.foldl_cons, ih, root_mem_settleStep, List.mem_cons, or_assoc, eq_comm]

/-- The root is neither lost nor won. -/
theorem root_mem_settle {qs : List Part} : .root ∈ settle qs ↔ .root ∈ qs := by
  rw [settle, List.mem_reverse, root_mem_foldl]
  simp

/-- The root is among the parts of an absolute path, and of no other. -/
theorem root_mem_parts : .root ∈ p.parts ↔ p.isAbsolute = true := by
  have hinner : .root ∉ p.inner := fun h => isStep_of_mem_inner h
  rw [parts_eq, List.mem_append, or_iff_left hinner, leadingPart]
  split
  next h => simp [h]
  next h => split <;> simp [h]

/-- Whether a path is absolute is seen from what it settles to. -/
theorem isAbsolute_congr (h : settle p.parts = settle q.parts) :
    p.isAbsolute = q.isAbsolute := by
  rw [Bool.eq_iff_iff, ← root_mem_parts, ← root_mem_parts, ← root_mem_settle, h, root_mem_settle]

/-- Normalizing makes no path absolute, and leaves none that is not. -/
theorem isAbsolute_normalize (p : Path) : p.normalize.isAbsolute = p.isAbsolute :=
  isAbsolute_congr (settle_parts_normalize p)

theorem isAbsolute_join (h : root.isAbsolute = true) (rel : Path) :
    (root.join rel).isAbsolute = true := by
  cases hrel : rel.isAbsolute with
  | true => rw [join, if_pos hrel, hrel]
  | false =>
    rw [← root_mem_parts, ← root_mem_settle, settle_parts_join hrel, root_mem_settle,
      List.mem_append]
    exact .inl (root_mem_parts.mpr h)

theorem isAbsolute_extend (h : p.isAbsolute = true) (names : List Name) :
    (p.extend names).isAbsolute = true := by
  rw [isAbsolute, beq_iff_eq] at h ⊢
  rw [extend, List.head?_append, h]
  rfl

/-- Paths with one normal form settle alike. -/
theorem settle_parts_congr (h : p.normalize = q.normalize) : settle p.parts = settle q.parts := by
  rw [← settle_parts_normalize, h, settle_parts_normalize]

/-- **Spelling does not matter**: what a path read from a directory comes to is given by the
normal forms of both. -/
theorem resolve_congr (hroot : root.normalize = root'.normalize)
    (hrel : rel.normalize = rel'.normalize) : root.resolve rel = root'.resolve rel' := by
  have habs := isAbsolute_congr (settle_parts_congr hrel)
  show ofParts (settle (root.join rel).parts) = ofParts (settle (root'.join rel').parts)
  cases h : rel.isAbsolute with
  | true =>
    rw [join, join, if_pos h, if_pos (habs ▸ h), settle_parts_congr hrel]
  | false =>
    rw [settle_parts_join h, settle_parts_join (habs ▸ h),
      settle_append_congr (settle_parts_congr hroot) (settle_parts_congr hrel)]

/-! ## 4. Grounded paths

Being grounded asks more of the bytes than being normal: nothing between two slashes is a dot
or two, which is what the operating system would look at. -/

/-- **A grounded path** starts at the root, has no `here` and no `up` among its parts, no `.`
and no `..` between its slashes either, and is its own normal form. -/
structure IsGrounded (p : Path) : Prop where
  isAbsolute : p.isAbsolute = true
  isNormal : p.IsNormal
  here_not_mem : .here ∉ p.parts
  up_not_mem : .up ∉ p.parts
  no_dots : ∀ piece ∈ pieces isSlash p.bytes, piece ≠ [dot] ∧ piece ≠ [dot, dot]

/-- The settled parts of an absolute path are the root and names. -/
theorem settle_parts_of_isAbsolute (h : p.isAbsolute = true) :
    ∃ names : List Name, settle p.parts = .root :: names.map .name ∧ ∀ n ∈ names, Plain n := by
  obtain ⟨base, names, hsettle, hbase, hnames⟩ := settled_settle p
  have hroot : .root ∈ settle p.parts := root_mem_settle.mpr (root_mem_parts.mpr h)
  rcases hbase with rfl | ⟨k, rfl⟩
  · exact ⟨names, hsettle, hnames⟩
  · rw [hsettle] at hroot
    simp at hroot

theorem pieces_ofNames {names : List Name} (h : ∀ n ∈ names, Plain n) :
    ∀ piece ∈ pieces isSlash (ofParts (.root :: names.map .name)).bytes,
      piece = [] ∨ piece ∈ names := by
  cases names with
  | nil =>
    intro piece hpiece
    have hpieces : pieces isSlash [slash] = [[], []] := rfl
    rw [List.map_nil, show (ofParts [.root]).bytes = [slash] from rfl, hpieces] at hpiece
    simpa using hpiece
  | cons n names =>
    intro piece hpiece
    have hfree : ∀ r ∈ .root :: (n :: names).map Part.name, Free isSlash (partBytes r) := by
      intro r hr
      rcases List.mem_cons.mp hr with rfl | hr
      · exact free_nil
      · obtain ⟨m, hm, rfl⟩ := List.mem_map.mp hr
        exact (h m hm).2.2.2
    rw [List.map_cons] at hfree hpiece
    rw [show (ofParts (.root :: .name n :: names.map .name)).bytes =
      joinParts (.root :: .name n :: names.map .name) from rfl, pieces_joinParts hfree] at hpiece
    simpa [partBytes, Function.comp_def] using hpiece

/-- **The normal form of an absolute path is grounded.** -/
theorem isGrounded_normalize (h : p.isAbsolute = true) : p.normalize.IsGrounded := by
  obtain ⟨names, hsettle, hnames⟩ := settle_parts_of_isAbsolute h
  have hparts : p.normalize.parts = .root :: names.map .name := by
    rw [normalize, parts_ofParts (settled_settle p), hsettle]
    rfl
  refine ⟨(isAbsolute_normalize p).trans h, isNormal_normalize p, ?_, ?_, fun piece hpiece => ?_⟩
  · rw [hparts]
    simp
  · rw [hparts]
    simp
  · rw [normalize, hsettle] at hpiece
    rcases pieces_ofNames hnames piece hpiece with rfl | hname
    · exact ⟨nofun, nofun⟩
    · exact ⟨(hnames piece hname).2.1, (hnames piece hname).2.2.1⟩

/-- **Whatever is read from an absolute directory** is grounded, an absolute path included. -/
theorem isGrounded_resolve (h : root.isAbsolute = true) (rel : Path) :
    (root.resolve rel).IsGrounded :=
  isGrounded_normalize (isAbsolute_join h rel)

/-- **On grounded paths** to have the same parts is to be the same path. -/
theorem IsGrounded.parts_eq_iff (hp : p.IsGrounded) (hq : q.IsGrounded) :
    p.parts = q.parts ↔ p.bytes = q.bytes := by
  constructor
  · intro h
    rw [hp.isNormal.eq_of_parts hq.isNormal h]
  · intro h
    rw [show p = q from congrArg Path.mk h]

end Path

end LintRun
