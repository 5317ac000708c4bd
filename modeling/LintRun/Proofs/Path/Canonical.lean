import LintRun.Proofs.Path.Resolve
import Mathlib.Logic.Relation

/-!
# Normal forms stand for paths

Dropping a `here`, a name together with the `up` right after it, or an `up` right after the
root leaves a path where it is (`Path.Drops`).  This says what may be taken out of a row of
parts, anywhere and in any order, and nothing about stacks.

* `Drops.settle_eq`: what is dropped makes no difference to settling;
* `drops_settle`: settling is dropping, for as long as there is something to drop;
* `settle_eq_iff`: so rows of parts settle alike exactly if they turn into each other by
  dropping and putting back, which is when paths with these parts have one normal form.

`Drops` is a rewriting system without a strategy.  It always comes to an end, as each drop
makes the row shorter, but neither that nor confluence is shown by itself: settling is a
function that drops leave unchanged and that is reached by dropping, and such a function gives
both the equivalence and a common reduct (`settle_eq_iff`, `settle_eq_iff_join`).

The third rule says that there is nothing above the root.  There is none for an `up` at the
start of a relative path, which is why such paths keep it.
-/

namespace LintRun

namespace Path

variable {p q : Path} {qs rs : List Part}

/-! ## 1. Dropping

Every rule has what stands before and behind as variables, so a drop may happen anywhere in a
row. -/

/-- One thing is dropped from a row of parts. -/
inductive Drops : List Part → List Part → Prop
  | here (before after : List Part) : Drops (before ++ .here :: after) (before ++ after)
  | name (before after : List Part) (n : Name) :
      Drops (before ++ .name n :: .up :: after) (before ++ after)
  | root (before after : List Part) :
      Drops (before ++ .root :: .up :: after) (before ++ .root :: after)

theorem Drops.append (h : Drops qs rs) (more : List Part) : Drops (qs ++ more) (rs ++ more) := by
  cases h with
  | here before after =>
    simpa using Drops.here before (after ++ more)
  | name before after n =>
    simpa using Drops.name before (after ++ more) n
  | root before after =>
    simpa using Drops.root before (after ++ more)

/-- **What is dropped** makes no difference to settling: the stack is the same after it. -/
theorem Drops.settle_eq (h : Drops qs rs) : settle qs = settle rs := by
  cases h with
  | here before after =>
    rw [settle, settle, List.foldl_append, List.foldl_append]
    rfl
  | name before after n =>
    rw [settle, settle, List.foldl_append, List.foldl_append]
    rfl
  | root before after =>
    rw [settle, settle, List.foldl_append, List.foldl_append]
    rfl

/-- So rows that turn into each other settle alike. -/
theorem settle_eq_of_eqvGen (h : Relation.EqvGen Drops qs rs) : settle qs = settle rs := by
  induction h with
  | rel _ _ hdrop => exact hdrop.settle_eq
  | refl _ => rfl
  | symm _ _ _ ih => exact ih.symm
  | trans _ _ _ _ _ ih ih' => exact ih.trans ih'

/-! ## 2. Settling

One step of the fold takes one part from the row and does one drop at most, at the place where
the stack ends and the rest of the row begins. -/

/-- **One step of settling** drops one thing or nothing. -/
theorem drops_settleStep (kept : List Part) (q : Part) :
    Relation.ReflTransGen Drops (kept.reverse ++ [q]) (settleStep kept q).reverse := by
  have hpush : Relation.ReflTransGen Drops (kept.reverse ++ [q]) (q :: kept).reverse := by
    rw [List.reverse_cons]
  cases q with
  | root => exact hpush
  | name n => exact hpush
  | here =>
    have hdrop := Drops.here kept.reverse []
    rw [List.append_nil] at hdrop
    exact .single hdrop
  | up =>
    cases kept with
    | nil => exact hpush
    | cons top below =>
      cases top with
      | here => exact hpush
      | up => exact hpush
      | root =>
        have hdrop := Drops.root below.reverse []
        rw [← List.reverse_cons] at hdrop
        rw [List.reverse_cons, List.append_assoc]
        exact .single hdrop
      | name n =>
        have hdrop := Drops.name below.reverse [] n
        rw [List.append_nil] at hdrop
        rw [List.reverse_cons, List.append_assoc]
        exact .single hdrop

/-- **Settling is dropping.** -/
theorem drops_settle (qs : List Part) : Relation.ReflTransGen Drops qs (settle qs) := by
  induction qs using List.reverseRecOn with
  | nil => exact .refl
  | append_singleton qs q ih =>
    have hbefore : Relation.ReflTransGen Drops (qs ++ [q]) (settle qs ++ [q]) :=
      ih.lift (· ++ [q]) fun _ _ hdrop => hdrop.append [q]
    have hstep := drops_settleStep (qs.foldl settleStep []) q
    refine hbefore.trans ?_
    rw [settle, settle, List.foldl_append]
    exact hstep

/-- **Rows of parts settle alike** exactly if dropping and putting back leads from one to the
other, and then dropping alone leads from both to one row. -/
theorem settle_eq_iff : settle qs = settle rs ↔ Relation.EqvGen Drops qs rs := by
  constructor
  · intro h
    have hqs := Relation.EqvGen.reflTransGen_le_eqvGen _ _ _ (drops_settle qs)
    have hrs := Relation.EqvGen.reflTransGen_le_eqvGen _ _ _ (drops_settle rs)
    rw [h] at hqs
    exact hqs.trans _ _ _ (hrs.symm _ _)
  · exact settle_eq_of_eqvGen

/-- **Dropping alone is enough**: both rows drop to what they settle to. -/
theorem settle_eq_iff_join :
    settle qs = settle rs ↔ Relation.Join (Relation.ReflTransGen Drops) qs rs := by
  constructor
  · intro h
    exact ⟨settle qs, drops_settle qs, h ▸ drops_settle rs⟩
  · rintro ⟨left, hqs, hrs⟩
    have hqs := settle_eq_of_eqvGen (Relation.EqvGen.reflTransGen_le_eqvGen _ _ _ hqs)
    have hrs := settle_eq_of_eqvGen (Relation.EqvGen.reflTransGen_le_eqvGen _ _ _ hrs)
    exact hqs.trans hrs.symm

/-! ## 3. Normal forms

A path is given by its bytes and a row by its parts; that normal forms can be compared either
way is shown elsewhere, and the law puts the two together. -/

theorem normalize_eq_iff : p.normalize = q.normalize ↔ settle p.parts = settle q.parts :=
  ⟨settle_parts_congr, congrArg ofParts⟩

/-- **Normalizing gives canonical forms.**  Two paths have one normal form, by their bytes or by
their parts, exactly if their parts are related by the smallest equivalence that drops a `here`,
a name with the `up` right after it, and an `up` right after the root; and then dropping alone
brings both to one row.  What dropping leads to and a normal form has for parts is the root
followed by names or some `up`s followed by names, or a single `here` when nothing is left.  A
normal form is absolute exactly if its path is, and is its own normal form byte by byte. -/
theorem canonical_law (p q : Path) :
    (p.normalize = q.normalize ↔ Relation.EqvGen Drops p.parts q.parts) ∧
    (p.normalize = q.normalize ↔ p.normalize.parts = q.normalize.parts) ∧
    (p.normalize = q.normalize ↔
      Relation.Join (Relation.ReflTransGen Drops) p.parts q.parts) ∧
    (∃ left, Relation.ReflTransGen Drops p.parts left ∧ Settled left ∧
      p.normalize.parts = (if left = [] then [.here] else left) ∧
      p.normalize = ofParts left) ∧
    p.normalize.isAbsolute = p.isAbsolute ∧
    p.normalize.normalize.bytes = p.normalize.bytes := by
  refine ⟨normalize_eq_iff.trans settle_eq_iff, ?_, normalize_eq_iff.trans settle_eq_iff_join,
    ?_, isAbsolute_normalize p, ?_⟩
  · exact ⟨congrArg parts, (isNormal_normalize p).eq_of_parts (isNormal_normalize q)⟩
  · have hsettled := settled_settle p
    exact ⟨settle p.parts, drops_settle p.parts, hsettled, parts_ofParts hsettled, rfl⟩
  · rw [normalize_normalize]

/-- A `here` and a name with its `up` are dropped, and so is the `up` that then follows the root. -/
example : (ofString "/src/./lib/../../../a.js").normalize = ofString "/a.js" := by decide

end Path

end LintRun
