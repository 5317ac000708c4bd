import LintRun.Path.Basic
import LintRun.Proofs.Text.Pieces
import Mathlib.Data.List.Basic

/-!
# Normal forms of paths

Settled parts are the root followed by names, or some `up`s followed by names
(`Path.Settled`).  Normalizing settles the parts of a path, and what it writes is read back
as the same parts (`parts_ofParts`), so a normal form is its own normal form
(`normalize_normalize`) and is given by its parts (`IsNormal.eq_of_parts`).

A path has two lives, as bytes and as parts, and the proofs keep them apart.  On parts,
settling is a fold with a stack: a name is pushed, an `up` pops a name, stays on a stack of
`up`s, and is dropped at the root.  That the stack turned over is settled is an invariant of
the fold (`settled_settleStep`), and settled parts leave the fold as they entered it
(`settle_of_settled`).  On bytes, parts that may stand anywhere hold no slash and are no `.`;
so what is written between slashes is cut at the same slashes again, and each piece is the part
that it was.

The two meet in `parts_ofParts`.  One case stands apart there: no parts at all are written as
`.`, which is read back as the part `here`, since an empty path would name nothing.
-/

namespace LintRun

namespace Path

/-! ## 1. Parts of a path

What stands between two slashes is no part, an `up`, or a name; only what stands before the
first slash may be the root or a `here`. -/

/-- A name that stands for itself between slashes. -/
def Plain (n : Name) : Prop := n ≠ [] ∧ n ≠ [dot] ∧ n ≠ [dot, dot] ∧ Free isSlash n

/-- A part that may stand anywhere in a path. -/
def IsStep : Part → Prop
  | .up => True
  | .name n => Plain n
  | _ => False

theorem isStep_of_innerPart {piece : Name} {q : Part} (hfree : Free isSlash piece)
    (h : innerPart piece = some q) : IsStep q := by
  simp only [innerPart] at h
  split at h
  · exact absurd h (by simp)
  · split at h
    · exact absurd h (by simp)
    · split at h
      · obtain rfl := Option.some.inj h
        trivial
      · obtain rfl := Option.some.inj h
        exact ⟨‹_›, ‹_›, ‹_›, hfree⟩

/-- A part that is written between slashes is read back. -/
theorem innerPart_partBytes {q : Part} (h : IsStep q) : innerPart (partBytes q) = some q := by
  cases q with
  | up => rfl
  | name n =>
    obtain ⟨h0, h1, h2, -⟩ := h
    simp [innerPart, partBytes, h0, h1, h2]
  | root => exact absurd h (by simp [IsStep])
  | here => exact absurd h (by simp [IsStep])

theorem free_partBytes {q : Part} (h : IsStep q) : Free isSlash (partBytes q) := by
  cases q with
  | up => simp [partBytes, Free, isSlash, dot, slash]
  | name n => exact h.2.2.2
  | root => exact absurd h (by simp [IsStep])
  | here => exact absurd h (by simp [IsStep])

/-- The parts of a path but for what it starts with. -/
def inner (p : Path) : List Part := (pieces isSlash p.bytes).filterMap innerPart

theorem isStep_of_mem_inner {p : Path} {q : Part} (h : q ∈ p.inner) : IsStep q := by
  obtain ⟨piece, hpiece, hin⟩ := List.mem_filterMap.mp h
  exact isStep_of_innerPart (free_of_mem_pieces hpiece) hin

/-- **The parts of a path** are its leading part and parts that may stand anywhere. -/
theorem parts_eq (p : Path) : p.parts = p.leadingPart ++ p.inner := rfl

/-- A path starts with the root, with a `here`, or with neither. -/
theorem leadingPart_cases (p : Path) :
    p.leadingPart = [.root] ∨ p.leadingPart = [.here] ∨ p.leadingPart = [] := by
  unfold leadingPart
  split
  · exact .inl rfl
  · split
    · exact .inr (.inl rfl)
    · exact .inr (.inr rfl)

/-! ## 2. Settled parts

The stack is kept with the last part first, so what is said about parts in their order is said
of the stack turned over. -/

/-- What settled parts start with: the root, or a way up. -/
def Base (base : List Part) : Prop := base = [.root] ∨ ∃ k, base = List.replicate k .up

/-- The root followed by names, or some `up`s followed by names. -/
def Settled (qs : List Part) : Prop :=
  ∃ (base : List Part) (names : List Name),
    qs = base ++ names.map .name ∧ Base base ∧ ∀ n ∈ names, Plain n

theorem settled_of_base {base : List Part} (h : Base base) : Settled base :=
  ⟨base, [], by simp, h, by simp⟩

/-- Another `up` leaves a start of settled parts a start: the root takes it in, and `up`s are
one more. -/
theorem settleStep_up_base {base : List Part} (h : Base base) :
    Base (settleStep base.reverse .up).reverse := by
  rcases h with rfl | ⟨k, rfl⟩
  · exact .inl rfl
  · refine .inr ⟨k + 1, ?_⟩
    cases k with
    | zero => rfl
    | succ k =>
      rw [List.reverse_replicate]
      simp only [List.replicate_succ, settleStep]
      rw [← List.replicate_succ, ← List.replicate_succ, List.reverse_replicate]

/-- **One step keeps parts settled.** -/
theorem settled_settleStep {kept : List Part} {q : Part} (h : Settled kept.reverse)
    (hq : IsStep q) : Settled (settleStep kept q).reverse := by
  obtain ⟨base, names, hk, hbase, hnames⟩ := h
  have hkept : kept = (names.map Part.name).reverse ++ base.reverse := by
    rw [← List.reverse_reverse kept, hk, List.reverse_append]
  cases q with
  | root => exact absurd hq (by simp [IsStep])
  | here => exact absurd hq (by simp [IsStep])
  | name n =>
    refine ⟨base, names ++ [n], ?_, hbase, ?_⟩
    · simp [settleStep, hk]
    · intro m hm
      rcases List.mem_append.mp hm with hm | hm
      · exact hnames m hm
      · rw [List.mem_singleton.mp hm]
        exact hq
  | up =>
    rcases names.eq_nil_or_concat with rfl | ⟨ms, n, rfl⟩
    · rw [hkept]
      exact settled_of_base (by simpa using settleStep_up_base hbase)
    · refine ⟨base, ms, ?_, hbase, fun m hm => hnames m (by simp [hm])⟩
      rw [hkept]
      simp [settleStep]

/-- By induction on the parts that are still to come. -/
theorem settled_foldl {steps kept : List Part} (h : Settled kept.reverse)
    (hs : ∀ q ∈ steps, IsStep q) : Settled (steps.foldl settleStep kept).reverse := by
  induction steps generalizing kept with
  | nil => exact h
  | cons q steps ih =>
    rw [List.foldl_cons]
    exact ih (settled_settleStep h (hs q List.mem_cons_self))
      (fun q hq => hs q (List.mem_cons_of_mem _ hq))

/-- **Settling settles.** -/
theorem settled_settle (p : Path) : Settled (settle p.parts) := by
  unfold settle
  rw [parts_eq, List.foldl_append]
  refine settled_foldl ?_ fun q hq => isStep_of_mem_inner hq
  rcases leadingPart_cases p with h | h | h <;> rw [h]
  · exact settled_of_base (.inl rfl)
  · exact settled_of_base (.inr ⟨0, rfl⟩)
  · exact settled_of_base (.inr ⟨0, rfl⟩)

/-- Names pile up. -/
theorem foldl_settleStep_names (names : List Name) (kept : List Part) :
    (names.map Part.name).foldl settleStep kept = (names.map Part.name).reverse ++ kept := by
  induction names generalizing kept with
  | nil => rfl
  | cons n names ih =>
    rw [List.map_cons, List.foldl_cons, ih]
    simp [settleStep]

/-- And so do `up`s, where there is nothing that they could take back. -/
theorem foldl_settleStep_ups (j k : Nat) :
    (List.replicate k Part.up).foldl settleStep (List.replicate j .up)
      = List.replicate (j + k) .up := by
  induction k generalizing j with
  | zero => rfl
  | succ k ih =>
    have hstep : settleStep (List.replicate j .up) .up = List.replicate (j + 1) .up := by
      cases j <;> rfl
    rw [List.replicate_succ, List.foldl_cons, hstep, ih]
    congr 1
    omega

/-- Settled parts are settled already. -/
theorem settle_of_settled {qs : List Part} (h : Settled qs) : settle qs = qs := by
  obtain ⟨base, names, rfl, hbase, -⟩ := h
  have hb : base.foldl settleStep [] = base.reverse := by
    rcases hbase with rfl | ⟨k, rfl⟩
    · rfl
    · have h0 := foldl_settleStep_ups 0 k
      rw [Nat.zero_add] at h0
      rw [List.reverse_replicate]
      exact h0
  unfold settle
  rw [List.foldl_append, hb, foldl_settleStep_names]
  simp

/-! ## 3. Writing parts and reading them back

Nothing is said here about parts in general: a name with a slash in it would be read back as
two. -/

theorem pieces_joinParts {q : Part} {qs : List Part}
    (h : ∀ r ∈ q :: qs, Free isSlash (partBytes r)) :
    pieces isSlash (joinParts (q :: qs)) = (q :: qs).map partBytes := by
  induction qs generalizing q with
  | nil => exact pieces_of_free (h q List.mem_cons_self)
  | cons r qs ih =>
    have hcons : joinParts (q :: r :: qs) = partBytes q ++ slash :: joinParts (r :: qs) := rfl
    rw [hcons, pieces_append_break (h q List.mem_cons_self) (by rfl),
      ih fun s hs => h s (List.mem_cons_of_mem _ hs)]
    rfl

theorem filterMap_innerPart {steps : List Part} (h : ∀ q ∈ steps, IsStep q) :
    (steps.map partBytes).filterMap innerPart = steps := by
  induction steps with
  | nil => rfl
  | cons q steps ih =>
    rw [List.map_cons, List.filterMap_cons, innerPart_partBytes (h q List.mem_cons_self)]
    rw [ih fun r hr => h r (List.mem_cons_of_mem _ hr)]

/-- Parts without a root are read back. -/
theorem parts_joinParts {q : Part} {qs : List Part} (h : ∀ r ∈ q :: qs, IsStep r) :
    parts ⟨joinParts (q :: qs)⟩ = q :: qs := by
  have hfree : ∀ r ∈ q :: qs, Free isSlash (partBytes r) := fun r hr => free_partBytes (h r hr)
  have hpieces := pieces_joinParts hfree
  have hq := innerPart_partBytes (h q List.mem_cons_self)
  have hlead : leadingPart ⟨joinParts (q :: qs)⟩ = [] := by
    unfold leadingPart
    have habs : isAbsolute ⟨joinParts (q :: qs)⟩ = false := by
      cases hb : partBytes q with
      | nil =>
        rw [hb] at hq
        exact absurd hq (by simp [innerPart])
      | cons b bs =>
        have hhead : (joinParts (q :: qs)).head? = some b := by
          cases qs <;> simp [joinParts, hb]
        have hbreak : isSlash b = false := hfree q List.mem_cons_self b (by simp [hb])
        simpa [isAbsolute, hhead, isSlash] using hbreak
    have hdot : partBytes q ≠ [dot] := by
      intro hd
      rw [hd] at hq
      exact absurd hq (by simp [innerPart])
    rw [if_neg (by simp [habs]), hpieces, if_neg (by simpa using hdot)]
  unfold parts
  rw [hlead, hpieces, filterMap_innerPart h]
  rfl

/-- The root and the parts after it are read back. -/
theorem parts_joinParts_root {q : Part} {qs : List Part} (h : ∀ r ∈ q :: qs, IsStep r) :
    parts ⟨joinParts (.root :: q :: qs)⟩ = .root :: q :: qs := by
  have hfree : ∀ r ∈ .root :: q :: qs, Free isSlash (partBytes r) := by
    intro r hr
    rcases List.mem_cons.mp hr with rfl | hr
    · exact free_nil
    · exact free_partBytes (h r hr)
  have hinner : ((.root :: q :: qs : List Part).map partBytes).filterMap innerPart = q :: qs := by
    rw [List.map_cons, List.filterMap_cons]
    exact filterMap_innerPart h
  unfold parts
  rw [pieces_joinParts hfree, hinner]
  rfl

/-- **What is written from settled parts is read back**; no parts at all are written as `.`. -/
theorem parts_ofParts {qs : List Part} (h : Settled qs) :
    (ofParts qs).parts = if qs = [] then [.here] else qs := by
  obtain ⟨base, names, rfl, hbase, hnames⟩ := h
  have hsteps : ∀ q ∈ names.map Part.name, IsStep q := by
    intro q hq
    obtain ⟨n, hn, rfl⟩ := List.mem_map.mp hq
    exact hnames n hn
  rcases hbase with rfl | ⟨k, rfl⟩
  · cases names with
    | nil => rfl
    | cons n names => exact parts_joinParts_root hsteps
  · have hall : ∀ q ∈ List.replicate k Part.up ++ names.map Part.name, IsStep q := by
      intro q hq
      rcases List.mem_append.mp hq with hq | hq
      · rw [List.eq_of_mem_replicate hq]
        trivial
      · exact hsteps q hq
    cases hqs : List.replicate k Part.up ++ names.map Part.name with
    | nil => rfl
    | cons q qs =>
      rw [hqs] at hall
      have hwrite : ofParts (q :: qs) = ⟨joinParts (q :: qs)⟩ := by
        cases q with
        | root => exact absurd (hall .root List.mem_cons_self) (by simp [IsStep])
        | here => rfl
        | up => rfl
        | name n => rfl
      rw [hwrite, parts_joinParts hall]
      rfl

/-! ## 4. Normal forms

All that follows about normal forms goes by their parts. -/

/-- A path that is its own normal form. -/
def IsNormal (p : Path) : Prop := p.normalize = p

/-- **Normalizing settles**: the parts of the normal form are settled parts of the path. -/
theorem settle_parts_normalize (p : Path) : settle p.normalize.parts = settle p.parts := by
  have h := settled_settle p
  unfold normalize
  rw [parts_ofParts h]
  split
  next he => rw [he]; rfl
  next => exact settle_of_settled h

/-- **A normal form is its own normal form.** -/
theorem normalize_normalize (p : Path) : p.normalize.normalize = p.normalize := by
  have h : p.normalize.normalize = ofParts (settle p.normalize.parts) := rfl
  rw [h, settle_parts_normalize]
  rfl

theorem isNormal_normalize (p : Path) : p.normalize.IsNormal := normalize_normalize p

/-- **Normal forms with the same parts are the same path.** -/
theorem IsNormal.eq_of_parts {p q : Path} (hp : p.IsNormal) (hq : q.IsNormal)
    (h : p.parts = q.parts) : p = q := by
  rw [← hp, ← hq]
  unfold normalize
  rw [h]

theorem IsNormal.eq_of_key {p q : Path} (hp : p.IsNormal) (hq : q.IsNormal)
    (h : p.key = q.key) : p = q :=
  hp.eq_of_parts hq (key_eq_iff.mp h)

end Path

end LintRun
