import Mathlib.Data.List.Nodup
import Mathlib.Data.List.Perm.Basic

/-!
# Looking up a key

In a list of entries without repeated keys, looking up a key finds what stands at the key and
nothing else (`lookup_eq_some_iff`), in whatever order the entries are.
-/

namespace LintRun

variable {α β : Type} [BEq α] [LawfulBEq α] {entries entries' : List (α × β)} {k : α} {b : β}

/-- Looking up goes from entry to entry. -/
theorem lookup_cons_eq_ite [DecidableEq α] (e : α × β) :
    (e :: entries).lookup k = if e.1 = k then some e.2 else entries.lookup k := by
  rw [List.lookup_cons]
  by_cases h : e.1 = k
  · rw [if_pos h, beq_iff_eq.mpr h.symm]
  · rw [if_neg h, beq_false_of_ne (Ne.symm h)]

/-- Nothing is found exactly if the key is not there. -/
theorem lookup_eq_none_iff_not_mem : entries.lookup k = none ↔ k ∉ entries.map Prod.fst := by
  rw [List.lookup_eq_none_iff, List.mem_map]
  constructor
  · rintro h ⟨e, he, rfl⟩
    simpa using h e he
  · intro h e he
    simpa using fun hk : k = e.1 => h ⟨e, he, hk.symm⟩

/-- What is found stands there, with keys repeated or not. -/
theorem mem_of_lookup_eq (h : entries.lookup k = some b) : (k, b) ∈ entries := by
  obtain ⟨before, after, rfl, -⟩ := List.lookup_eq_some_iff.mp h
  simp

/-- **The value of a key** is what stands at the key, if no key stands there twice. -/
theorem lookup_eq_some_iff (hkeys : (entries.map Prod.fst).Nodup) :
    entries.lookup k = some b ↔ (k, b) ∈ entries := by
  refine ⟨mem_of_lookup_eq, fun h => ?_⟩
  cases hlookup : entries.lookup k with
  | none => exact absurd (List.mem_map_of_mem h) (lookup_eq_none_iff_not_mem.mp hlookup)
  | some b' =>
    have hsame := List.inj_on_of_nodup_map hkeys (mem_of_lookup_eq hlookup) h rfl
    rw [(Prod.mk.inj hsame).2]

/-- Among entries without repeated keys the order does not matter. -/
theorem lookup_eq_of_perm (hkeys : (entries.map Prod.fst).Nodup) (h : entries.Perm entries') :
    entries.lookup k = entries'.lookup k := by
  have hkeys' : (entries'.map Prod.fst).Nodup := (h.map Prod.fst).nodup hkeys
  refine Option.ext fun b => ?_
  rw [lookup_eq_some_iff hkeys, lookup_eq_some_iff hkeys', h.mem_iff]

end LintRun
