import LintRun.Order.Ascending
import Mathlib.Data.List.Pairwise
import Mathlib.Data.List.Sort

/-!
# Collections in ascending order, by their members

An ascending collection is determined by its members (`Ascending.ext_mem`), and no two of
them share a key (`Ascending.eq_of_key_eq`).  So everything about insertion that the rest of
the theory needs is a statement about membership:

* `mem_insert` says exactly what one insertion does, an item with the same key being lost;
* `mem_insertAll` and `mem_ofList` say that nothing is lost where keys tell items apart.

Keys that tell items apart are the only condition.  It is stated of a predicate and not of the
type (`KeysTellApart`), since paths with the same parts need not have the same bytes: it holds
of
those in normal form, and that is all that is ever collected.
-/

namespace LintRun

variable {α κ : Type} {key : α → κ}

/-- Keys tell the members of a predicate apart. -/
def KeysTellApart (key : α → κ) (P : α → Prop) : Prop :=
  ∀ a b, P a → P b → key a = key b → a = b

theorem KeysTellApart.mono {P Q : α → Prop} (h : KeysTellApart key Q) (hPQ : ∀ a, P a → Q a) :
    KeysTellApart key P :=
  fun a b ha hb => h a b (hPQ a ha) (hPQ b hb)

variable [LT κ]

/-! ## 1. Insertion into an ordered list -/

/-- **One insertion into a list in order**: by induction on the list, following the three ways
in
which the key can lie to that of the head. -/
theorem mem_insertByKey [DecidableLT κ] [OrderedKeys κ] {x z : α} {ys : List α}
    (h : ys.Pairwise fun a b => key a < key b) :
    z ∈ insertByKey key x ys ↔ z = x ∨ z ∈ ys ∧ key z ≠ key x := by
  induction ys with
  | nil => simp [insertByKey]
  | cons y ys ih =>
    obtain ⟨hy, hys⟩ := List.pairwise_cons.mp h
    simp only [insertByKey]
    split
    next hxy =>
      have hne : ∀ a ∈ y :: ys, key a ≠ key x := by
        intro a ha he
        rcases List.mem_cons.mp ha with rfl | ha
        · exact OrderedKeys.lt_irrefl (he ▸ hxy)
        · exact OrderedKeys.lt_irrefl (he ▸ OrderedKeys.lt_trans hxy (hy a ha))
      rw [List.mem_cons]
      exact or_congr_right ⟨fun hz => ⟨hz, hne z hz⟩, fun hz => hz.1⟩
    next hxy =>
      split
      next hyx =>
        have hne : key y ≠ key x := fun he => OrderedKeys.lt_irrefl (he ▸ hyx)
        rw [List.mem_cons, ih hys, List.mem_cons]
        constructor
        · rintro (rfl | rfl | hz)
          · exact .inr ⟨.inl rfl, hne⟩
          · exact .inl rfl
          · exact .inr ⟨.inr hz.1, hz.2⟩
        · rintro (rfl | ⟨rfl | hz, hk⟩)
          · exact .inr (.inl rfl)
          · exact .inl rfl
          · exact .inr (.inr ⟨hz, hk⟩)
      next hyx =>
        have he : key x = key y := OrderedKeys.eq_of_not_lt hxy hyx
        rw [List.mem_cons, List.mem_cons]
        constructor
        · rintro (rfl | hz)
          · exact .inl rfl
          · exact .inr ⟨.inr hz, fun hk => OrderedKeys.lt_irrefl (he ▸ hk ▸ hy z hz)⟩
        · rintro (rfl | ⟨rfl | hz, hk⟩)
          · exact .inl rfl
          · exact absurd he.symm hk
          · exact .inr hz

namespace Ascending

/-! ## 2. A collection is its members -/

instance [DecidableEq α] (s : Ascending key) (a : α) : Decidable (a ∈ s) :=
  inferInstanceAs (Decidable (a ∈ s.toList))

/-- **No two members share a key.** -/
theorem eq_of_key_eq [OrderedKeys κ] {s : Ascending key} {a b : α} (ha : a ∈ s) (hb : b ∈ s)
    (h : key a = key b) : a = b := by
  have hall : s.toList.Pairwise fun a b => key a = key b → a = b :=
    s.ascending.imp fun hlt he => absurd (he ▸ hlt) OrderedKeys.lt_irrefl
  have : Std.Symm fun a b : α => key a = key b → a = b :=
    ⟨fun _ _ hab he => (hab he.symm).symm⟩
  exact hall.forall_of_forall (fun _ _ _ => rfl) ha hb h

/-- No item is listed twice. -/
theorem nodup_toList [OrderedKeys κ] (s : Ascending key) : s.toList.Nodup := by
  refine s.ascending.imp ?_
  rintro a _ hlt rfl
  exact OrderedKeys.lt_irrefl hlt

/-- **Collections with the same members are the same.** -/
theorem ext_mem [OrderedKeys κ] {s t : Ascending key} (h : ∀ a, a ∈ s ↔ a ∈ t) : s = t := by
  have : Std.Irrefl fun a b : α => key a < key b := ⟨fun _ => OrderedKeys.lt_irrefl⟩
  have : Std.Antisymm fun a b : α => key a < key b :=
    ⟨fun _ _ hab hba => absurd (OrderedKeys.lt_trans hab hba) OrderedKeys.lt_irrefl⟩
  exact ext (s.ascending.eq_of_mem_iff t.ascending h)

@[simp] theorem not_mem_empty {a : α} : a ∉ (empty : Ascending key) := List.not_mem_nil

@[simp] theorem mem_filter {p : α → Bool} {s : Ascending key} {a : α} :
    a ∈ s.filter p ↔ a ∈ s ∧ p a = true := List.mem_filter

theorem isEmpty_iff {s : Ascending key} : s.isEmpty = true ↔ s = empty := by
  rw [isEmpty, List.isEmpty_iff]
  exact ⟨fun h => ext h, fun h => h ▸ rfl⟩

/-! ## 3. Insertion -/

variable [DecidableLT κ] [OrderedKeys κ]

/-- **One insertion.**  The new item is there, and what was there stays unless its key is that
of the new item. -/
theorem mem_insert {s : Ascending key} {x z : α} :
    z ∈ s.insert x ↔ z = x ∨ z ∈ s ∧ key z ≠ key x :=
  mem_insertByKey s.ascending

/-- Where keys tell items apart an insertion loses nothing. -/
theorem mem_insert_of_apart {s : Ascending key} {x z : α}
    (h : KeysTellApart key fun a => a ∈ s ∨ a = x) : z ∈ s.insert x ↔ z ∈ s ∨ z = x := by
  rw [mem_insert]
  constructor
  · rintro (hz | hz)
    · exact .inr hz
    · exact .inl hz.1
  · rintro (hz | hz)
    · by_cases hk : key z = key x
      · exact .inl (h z x (.inl hz) (.inr rfl) hk)
      · exact .inr ⟨hz, hk⟩
    · exact .inl hz

/-- **Many insertions.**  Where keys tell items apart nothing is lost. -/
theorem mem_insertAll {s : Ascending key} {xs : List α} {z : α}
    (h : KeysTellApart key fun a => a ∈ s ∨ a ∈ xs) :
    z ∈ s.insertAll xs ↔ z ∈ s ∨ z ∈ xs := by
  induction xs generalizing s with
  | nil => simp [insertAll]
  | cons x xs ih =>
    have hx : KeysTellApart key fun a => a ∈ s ∨ a = x :=
      h.mono fun a ha => ha.imp_right fun (e : a = x) => e ▸ List.mem_cons_self
    have hxs : KeysTellApart key fun a => a ∈ s.insert x ∨ a ∈ xs := by
      refine h.mono fun a ha => ?_
      rcases ha with ha | ha
      · exact ((mem_insert_of_apart hx).mp ha).imp_right fun (e : a = x) => e ▸ List.mem_cons_self
      · exact .inr (List.mem_cons_of_mem _ ha)
    have hstep : s.insertAll (x :: xs) = (s.insert x).insertAll xs := rfl
    rw [hstep, ih hxs, mem_insert_of_apart hx, List.mem_cons, or_assoc]

/-- A collection of a list has the items of the list, where keys tell them apart. -/
theorem mem_ofList {xs : List α} {z : α} (h : KeysTellApart key (· ∈ xs)) :
    z ∈ (ofList xs : Ascending key) ↔ z ∈ xs := by
  rw [ofList, mem_insertAll (h.mono fun a ha => ha.resolve_left not_mem_empty)]
  simp

end Ascending

end LintRun
