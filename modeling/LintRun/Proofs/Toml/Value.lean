import LintRun.Proofs.Lookup
import LintRun.Toml.Value
import Mathlib.Data.List.Forall2

/-!
# The order of keys in TOML documents

A document is plain (`Value.IsPlain`) if no table has a key twice and no value is a date-time.
Such a table says of each key what stands there, and nothing else (`lookup_eq_some_iff`).

`v.Reorders w` says that `w` is `v` with the keys of any of its tables in another order.  What a
reordering keeps is: scalars, the items of arrays in order, and the value of each key, reordered
in turn (`Reorders.lookup`).

`Reorders` permutes the entries of a table after each entry has been reordered; so it is given
by the table in between, which has the keys of the first and the values of the second.  A
lookup is carried over in two steps, to the table in between, entry by entry, and from there by
the permutation, for which keys must not stand twice.

A value is nested, and its cases are the constructors with a list of values under them; the
inductions below go by `IsPlain` or `Reorders`, whose hypotheses come with one for each member.
-/

namespace LintRun.Toml

/-! ## 1. Tables without repeated keys

Lookups find the first entry of a key.  Where no key stands twice it is the only one, and the
order is of no account. -/

/-- The keys of a table, in document order. -/
def Entries.keys (es : Entries) : List String := es.map Prod.fst

section Items

variable {α β : Type} {R : α → β → Prop} {as : List α} {bs : List β}

theorem exists_of_mem_forall₂ (h : List.Forall₂ R as bs) {b : β} (hb : b ∈ bs) :
    ∃ a ∈ as, R a b := by
  induction h with
  | nil => cases hb
  | cons hR _ ih =>
    rcases List.mem_cons.mp hb with rfl | hb
    · exact ⟨_, List.mem_cons_self .., hR⟩
    · obtain ⟨a, ha, hR⟩ := ih hb
      exact ⟨a, List.mem_cons_of_mem _ ha, hR⟩

/-- Items that are related one by one are related the other way, if each is. -/
theorem forall₂_of_flip {S : β → α → Prop} (h : List.Forall₂ R as bs)
    (himp : ∀ a ∈ as, ∀ b, R a b → S b a) : List.Forall₂ S bs as := by
  induction h with
  | nil => exact .nil
  | cons hR _ ih =>
    obtain ⟨hfirst, hrest⟩ := List.forall_mem_cons.mp himp
    exact .cons (hfirst _ hR) (ih hrest)

end Items

variable {es fs gs : Entries} {k : String} {v w : Value}

namespace Value

/-- **Plain values**: no key stands twice in a table, and there is no date-time. -/
inductive IsPlain : Value → Prop
  | string (s : String) : IsPlain (.string s)
  | integer (n : Int) : IsPlain (.integer n)
  | float (x : Binary64) : IsPlain (.float x)
  | boolean (b : Bool) : IsPlain (.boolean b)
  | array {items : List Value} (h : ∀ v ∈ items, IsPlain v) : IsPlain (.array items)
  | table {es : Entries} (hkeys : es.keys.Nodup) (h : ∀ e ∈ es, IsPlain e.2) :
      IsPlain (.table es)

theorem IsPlain.nodup_keys (h : (Value.table es).IsPlain) : es.keys.Nodup := by
  cases h with
  | table hkeys h => exact hkeys

theorem IsPlain.of_mem (h : (Value.table es).IsPlain) {e : String × Value} (he : e ∈ es) :
    e.2.IsPlain := by
  cases h with
  | table hkeys h => exact h e he

theorem IsPlain.of_lookup (h : (Value.table es).IsPlain) (hv : es.lookup k = some v) : v.IsPlain :=
  h.of_mem (mem_of_lookup_eq hv)

theorem IsPlain.of_item {items : List Value} (h : (Value.array items).IsPlain) (hv : v ∈ items) :
    v.IsPlain := by
  cases h with
  | array h => exact h v hv

/-! ## 2. Reorderings

Lists keep their order: they are not tables, and the order of arguments or of roots means
something. -/

/-- Two entries of one key with related values. -/
inductive SameKey (R : Value → Value → Prop) : String × Value → String × Value → Prop
  | mk {k : String} {v w : Value} (h : R v w) : SameKey R (k, v) (k, w)

/-- **The same value but for the order of keys** in its tables, at any depth. -/
inductive Reorders : Value → Value → Prop
  | same (v : Value) : Reorders v v
  | array {vs ws : List Value} (h : List.Forall₂ Reorders vs ws) :
      Reorders (.array vs) (.array ws)
  | table {es fs gs : Entries} (h : List.Forall₂ (SameKey Reorders) es fs) (hperm : fs.Perm gs) :
      Reorders (.table es) (.table gs)

/-- Only an array reorders an array. -/
theorem Reorders.of_array {vs : List Value} (h : (Value.array vs).Reorders w) :
    ∃ ws, w = .array ws ∧ List.Forall₂ Reorders vs ws := by
  cases h with
  | same => exact ⟨vs, rfl, List.forall₂_same.mpr fun v _ => .same v⟩
  | array h => exact ⟨_, rfl, h⟩

/-- Only a table reorders a table. -/
theorem Reorders.of_table (h : (Value.table es).Reorders w) :
    ∃ fs gs, w = .table gs ∧ List.Forall₂ (SameKey Reorders) es fs ∧ fs.Perm gs := by
  cases h with
  | same =>
    exact ⟨es, es, rfl, List.forall₂_same.mpr fun _ _ => .mk (.same _), List.Perm.refl _⟩
  | table h hperm => exact ⟨_, _, rfl, h, hperm⟩

/-- Entries with the same keys, in order. -/
theorem SameKey.keys_eq {R : Value → Value → Prop} (h : List.Forall₂ (SameKey R) es fs) :
    es.keys = fs.keys := by
  induction h with
  | nil => rfl
  | cons hentry _ ih =>
    cases hentry with
    | mk hvalue => exact congrArg (List.cons _) ih

/-- In the table in between a key is looked up at the same entry. -/
theorem SameKey.lookup {R : Value → Value → Prop} (h : List.Forall₂ (SameKey R) es fs)
    (hv : es.lookup k = some v) : ∃ w, fs.lookup k = some w ∧ R v w := by
  induction h with
  | nil => cases hv
  | @cons e f es fs hentry _ ih =>
    cases hentry with
    | @mk k' v' w' hvalue =>
      rw [List.lookup_cons] at hv ⊢
      split at hv
      · cases hv
        exact ⟨w', rfl, hvalue⟩
      · exact ih hv

/-- A reordering has the same keys. -/
theorem Reorders.mem_keys_iff (h : (Value.table es).Reorders (Value.table gs)) :
    k ∈ es.keys ↔ k ∈ gs.keys := by
  obtain ⟨fs, gs', hgs, hentries, hperm⟩ := h.of_table
  cases hgs
  rw [SameKey.keys_eq hentries]
  exact (hperm.map Prod.fst).mem_iff

/-- **A reordering has the same value at each key**, reordered. -/
theorem Reorders.lookup (h : (Value.table es).Reorders (Value.table gs)) (hkeys : es.keys.Nodup)
    (hv : es.lookup k = some v) : ∃ w, gs.lookup k = some w ∧ v.Reorders w := by
  obtain ⟨fs, gs', hgs, hentries, hperm⟩ := h.of_table
  cases hgs
  obtain ⟨w, hw, hvw⟩ := SameKey.lookup hentries hv
  have hkeys' : (Entries.keys fs).Nodup := SameKey.keys_eq hentries ▸ hkeys
  exact ⟨w, (lookup_eq_of_perm hkeys' hperm).symm.trans hw, hvw⟩

/-- An entry of a reordering comes from an entry. -/
theorem Reorders.exists_of_mem (h : (Value.table es).Reorders (Value.table gs)) {g : String × Value}
    (hg : g ∈ gs) : ∃ v, (g.1, v) ∈ es ∧ v.Reorders g.2 := by
  obtain ⟨fs, gs', hgs, hentries, hperm⟩ := h.of_table
  cases hgs
  obtain ⟨e, he, hentry⟩ := exists_of_mem_forall₂ hentries (hperm.mem_iff.mpr hg)
  cases hentry with
  | mk hvalue => exact ⟨_, he, hvalue⟩

/-- **A reordering of a plain value is plain.** -/
theorem IsPlain.of_reorders (hv : v.IsPlain) (h : v.Reorders w) : w.IsPlain := by
  induction hv generalizing w with
  | string s =>
    cases h
    exact .string s
  | integer n =>
    cases h
    exact .integer n
  | float x =>
    cases h
    exact .float x
  | boolean b =>
    cases h
    exact .boolean b
  | array _ ih =>
    obtain ⟨ws, rfl, hitems⟩ := h.of_array
    refine .array fun w hw => ?_
    obtain ⟨v, hv, hvw⟩ := exists_of_mem_forall₂ hitems hw
    exact ih v hv hvw
  | table hkeys _ ih =>
    obtain ⟨fs, gs, rfl, hentries, hperm⟩ := h.of_table
    refine .table ?_ fun g hg => ?_
    · rw [SameKey.keys_eq hentries] at hkeys
      exact (hperm.map Prod.fst).nodup hkeys
    · obtain ⟨v, hv, hvw⟩ := h.exists_of_mem hg
      exact ih _ hv hvw

/-- **Reordering can be undone.** -/
theorem Reorders.symm (hv : v.IsPlain) (h : v.Reorders w) : w.Reorders v := by
  induction hv generalizing w with
  | string s =>
    cases h
    exact .same _
  | integer n =>
    cases h
    exact .same _
  | float x =>
    cases h
    exact .same _
  | boolean b =>
    cases h
    exact .same _
  | array _ ih =>
    obtain ⟨ws, rfl, hitems⟩ := h.of_array
    exact .array (forall₂_of_flip hitems fun v hv w => ih v hv)
  | @table es hkeys _ ih =>
    obtain ⟨fs, gs, rfl, hentries, hperm⟩ := h.of_table
    have hback : List.Forall₂ (SameKey Reorders) fs es := by
      refine forall₂_of_flip hentries fun e he f hentry => ?_
      cases hentry with
      | mk hvalue => exact .mk (ih _ he hvalue)
    obtain ⟨hs, hgs, hes⟩ := List.perm_comp_forall₂ hperm.symm hback
    exact .table hgs hes

end Value

end LintRun.Toml
