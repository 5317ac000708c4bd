/-
# Lists in strictly ascending order of a key

Finite sets and maps are kept as lists whose keys strictly ascend, so that the listing order
is part of the value and two collections with the same items are the same value.

* `Ascending.insert` puts an item at its place and replaces one with the same key;
* `Ascending.ofList` inserts from left to right: of equal keys the last one stays;
* `Ascending.filter` keeps order and keys.
-/
namespace LintRun

variable {α κ : Type} [LT κ]

/-- Keys of which any two different ones are in order, and the order goes on. -/
class OrderedKeys (κ : Type) [LT κ] : Prop where
  lt_irrefl {a : κ} : ¬a < a
  lt_trans {a b c : κ} : a < b → b < c → a < c
  eq_of_not_lt {a b : κ} : ¬a < b → ¬b < a → a = b

theorem OrderedKeys.ofLinear [LE κ] [Std.IsLinearOrder κ] [Std.LawfulOrderLT κ] :
    OrderedKeys κ where
  lt_irrefl := Std.lt_irrefl
  lt_trans := Std.lt_trans
  eq_of_not_lt {a b} h h' := by
    rcases Std.lt_trichotomy a b with h'' | h'' | h''
    · exact absurd h'' h
    · exact h''
    · exact absurd h'' h'

instance : OrderedKeys String := .ofLinear

instance : OrderedKeys (List (List Nat)) := .ofLinear

/-! ## 1. Insertion into an ordered list -/

section

variable [DecidableLT κ]

/-- Puts `x` before the first larger key, in place of an equal one. -/
def insertByKey (key : α → κ) (x : α) : List α → List α
  | [] => [x]
  | y :: ys =>
    if key x < key y then x :: y :: ys
    else if key y < key x then y :: insertByKey key x ys
    else x :: ys

theorem mem_insertByKey_imp {key : α → κ} {x z : α} {ys : List α}
    (h : z ∈ insertByKey key x ys) : z = x ∨ z ∈ ys := by
  induction ys with
  | nil => simpa [insertByKey] using h
  | cons y ys ih =>
    simp only [insertByKey] at h
    split at h
    · simpa using h
    · split at h
      · rcases List.mem_cons.mp h with h | h
        · exact .inr (by simp [h])
        · rcases ih h with h | h
          · exact .inl h
          · exact .inr (by simp [h])
      · rcases List.mem_cons.mp h with h | h
        · exact .inl h
        · exact .inr (by simp [h])

theorem pairwise_insertByKey [OrderedKeys κ]
    {key : α → κ} {x : α} {ys : List α} (h : ys.Pairwise fun a b => key a < key b) :
    (insertByKey key x ys).Pairwise fun a b => key a < key b := by
  induction ys with
  | nil => simp [insertByKey]
  | cons y ys ih =>
    obtain ⟨hy, hys⟩ := List.pairwise_cons.mp h
    simp only [insertByKey]
    split
    next hxy =>
      refine List.pairwise_cons.mpr ⟨fun z hz => ?_, h⟩
      rcases List.mem_cons.mp hz with rfl | hz
      · exact hxy
      · exact OrderedKeys.lt_trans hxy (hy z hz)
    next hxy =>
      split
      next hyx =>
        refine List.pairwise_cons.mpr ⟨fun z hz => ?_, ih hys⟩
        rcases mem_insertByKey_imp hz with rfl | hz
        · exact hyx
        · exact hy z hz
      next hyx =>
        have he : key x = key y := OrderedKeys.eq_of_not_lt hxy hyx
        refine List.pairwise_cons.mpr ⟨fun z hz => ?_, hys⟩
        rw [he]; exact hy z hz

end

/-! ## 2. The collection -/

/-- A list whose keys strictly ascend. -/
structure Ascending (key : α → κ) where
  toList : List α
  ascending : toList.Pairwise fun a b => key a < key b

namespace Ascending

variable {key : α → κ}

@[ext] theorem ext {s t : Ascending key} (h : s.toList = t.toList) : s = t := by
  cases s; cases t; cases h; rfl

instance [DecidableEq α] : DecidableEq (Ascending key) := fun s t =>
  if h : s.toList = t.toList then isTrue (ext h) else isFalse fun e => h (by rw [e])

instance : Membership α (Ascending key) := ⟨fun s a => a ∈ s.toList⟩

theorem mem_toList {s : Ascending key} {a : α} : a ∈ s.toList ↔ a ∈ s := Iff.rfl

/-- No items. -/
def empty : Ascending key := ⟨[], List.Pairwise.nil⟩

instance : Inhabited (Ascending key) := ⟨empty⟩

/-- How many items there are. -/
def size (s : Ascending key) : Nat := s.toList.length

/-- Whether there are no items. -/
def isEmpty (s : Ascending key) : Bool := s.toList.isEmpty

/-- The items that pass a test. -/
def filter (p : α → Bool) (s : Ascending key) : Ascending key :=
  ⟨s.toList.filter p, s.ascending.filter p⟩

theorem toList_filter (p : α → Bool) (s : Ascending key) :
    (s.filter p).toList = s.toList.filter p := rfl

/-- The item with a given key. -/
def find? [DecidableEq κ] (s : Ascending key) (k : κ) : Option α :=
  s.toList.find? fun a => key a = k

/-- Whether some item has a given key. -/
def hasKey [DecidableEq κ] (s : Ascending key) (k : κ) : Bool :=
  s.toList.any fun a => key a = k

variable [DecidableLT κ] [OrderedKeys κ]

/-- Adds an item, in place of one with the same key. -/
def insert (s : Ascending key) (x : α) : Ascending key :=
  ⟨insertByKey key x s.toList, pairwise_insertByKey s.ascending⟩

/-- Adds all items of a list from left to right. -/
def insertAll (s : Ascending key) (xs : List α) : Ascending key := xs.foldl insert s

/-- The collection of a list's items. -/
def ofList (xs : List α) : Ascending key := empty.insertAll xs

end Ascending

end LintRun
