import LintRun.Proofs.Registry.Selection

/-!
# Reading a registry file with an index of names

Names can be kept with the positions of the categories that answer to them.  While the names
of an entry are taken, their position is that of a category that there is not yet; if a name is
taken again then, the entry clashes with itself.

`indexAll` reads entries in this way.  It comes to the same categories or error as taking names
from their owners (`indexAll_agrees`), and in the index that it leaves a name leads to the
category that answers to it (`Index.Holds`).

This is the form in which the program keeps its names (the index of `CategoryRegistry`, filled
by `from_file`), and the owners of names are the form that is convenient to reason with.  The
two are compared entry by entry.  An index can be turned into owners once it is known who is
next (`Index.owners`), and the induction of `indexAll_agrees` carries that reading along.
There is one moment at which it depends on who is next, while the names of an entry are taken:
their position has no category yet, so its owner is the entry itself.  When the entry has
become a category the position is filled and the reading is the same for whoever comes next
(`owners_congr`, `Holds.owners_of_take`).
-/

namespace LintRun

/-- Names that were taken belong to who took them. -/
theorem lookup_taken {α : Type} {n : String} (names : List String) (a : α)
    (taken : List (String × α)) :
    ((names.map (·, a)).reverse ++ taken).lookup n =
      if n ∈ names then some a else taken.lookup n := by
  rw [← List.map_reverse]
  simp only [show n ∈ names ↔ n ∈ names.reverse from List.mem_reverse.symm]
  induction names.reverse with
  | nil => rfl
  | cons name names ih =>
    rw [List.map_cons, List.cons_append, List.lookup_cons]
    by_cases hn : n = name
    · rw [hn, beq_self_eq_true, if_pos List.mem_cons_self]
    · rw [beq_false_of_ne hn, ih]
      simp only [List.mem_cons, hn, false_or]

/-- Positions of categories by the names they answer to, the latest first. -/
abbrev Index := List (String × Nat)

namespace Index

/-- Takes names for the category that comes after those that there are, unless one is taken; a
position without a category is that of the category which the names are taken for. -/
def take (done : List Category) (key : String) :
    List String → Index → Except RegistryError Index
  | [], index => .ok index
  | name :: names, index =>
    match index.lookup name with
    | some position =>
      .error (.duplicateName name ((done[position]?).elim key Category.key) key)
    | none => take done key names ((name, done.length) :: index)

/-- The owners of the names in an index. -/
def owners (done : List Category) (key : String) (index : Index) : Registry.Owners :=
  index.map fun entry => (entry.1, (done[entry.2]?).elim key Category.key)

/-- The category at the position of a name. -/
def get? (done : List Category) (index : Index) (name : String) : Option Category :=
  (index.lookup name).bind (done[·]?)

/-- **The invariant of an index**: its positions are those of categories, and a name leads to
the category that answers to it. -/
structure Holds (done : List Category) (index : Index) : Prop where
  within : ∀ entry ∈ index, entry.2 < done.length
  answers : ∀ n, get? done index n = done.find? fun c => c.names.contains n

/-- An index without names holds at the start. -/
theorem holds_empty : Holds [] [] := ⟨nofun, fun _ => rfl⟩

variable {done : List Category} {key n : String} {names : List String}
  {index index' : Index} {c : Category}

/-- The owner of a name is who stands at its position. -/
theorem lookup_owners :
    (owners done key index).lookup n =
      (index.lookup n).map fun position => (done[position]?).elim key Category.key := by
  induction index with
  | nil => rfl
  | cons entry index ih =>
    show List.lookup n ((entry.1, _) :: owners done key index) = _
    rw [List.lookup_cons, List.lookup_cons]
    cases n == entry.1 with
    | true => rfl
    | false => exact ih

/-- **Taking names in an index** is taking them from their owners. -/
theorem takeNames_owners :
    Registry.takeNames key names (owners done key index) =
      (take done key names index).map (owners done key) := by
  induction names generalizing index with
  | nil => rfl
  | cons name names ih =>
    rw [Registry.takeNames, take, lookup_owners]
    cases index.lookup name with
    | some position => rfl
    | none =>
      have hself : (name, key) :: owners done key index =
          owners done key ((name, done.length) :: index) := by
        show _ = (name, (done[done.length]?).elim key Category.key) :: owners done key index
        rw [List.getElem?_eq_none (Nat.le_refl _)]
        rfl
      show Registry.takeNames key names ((name, key) :: owners done key index) = _
      rw [hself]
      exact ih

/-- With a category for every position it does not matter which category is next. -/
theorem owners_congr (h : ∀ entry ∈ index, entry.2 < done.length) (key key' : String) :
    owners done key' index = owners done key index :=
  List.map_congr_left fun entry hentry => by
    rw [List.getElem?_eq_getElem (h entry hentry)]
    rfl

/-- Names are taken if they lead nowhere, and then they lead to the next category. -/
theorem eq_of_take (h : take done key names index = .ok index') :
    (∀ n ∈ names, index.lookup n = none) ∧
      index' = (names.map (·, done.length)).reverse ++ index := by
  induction names generalizing index with
  | nil =>
    cases h
    exact ⟨nofun, rfl⟩
  | cons name names ih =>
    rw [take] at h
    cases hlookup : index.lookup name with
    | some position =>
      rw [hlookup] at h
      cases h
    | none =>
      rw [hlookup] at h
      obtain ⟨hnone, rfl⟩ := ih h
      refine ⟨fun n hn => ?_, ?_⟩
      · rcases List.mem_cons.mp hn with rfl | hn
        · exact hlookup
        · have hrest := hnone n hn
          rw [List.lookup_cons] at hrest
          cases hname : n == name with
          | true =>
            rw [hname] at hrest
            cases hrest
          | false =>
            rw [hname] at hrest
            exact hrest
      · rw [List.map_cons, List.reverse_cons, List.append_assoc]
        rfl

/-- **One category more** keeps the invariant. -/
theorem Holds.concat (h : Holds done index) (htake : take done key c.names index = .ok index') :
    Holds (done ++ [c]) index' := by
  obtain ⟨hnone, rfl⟩ := eq_of_take htake
  constructor
  case within =>
    intro entry hentry
    rw [List.length_append, List.length_singleton]
    rcases List.mem_append.mp hentry with hentry | hentry
    · rw [List.mem_reverse, List.mem_map] at hentry
      obtain ⟨name, -, rfl⟩ := hentry
      exact Nat.lt_succ_self _
    · exact Nat.lt_succ_of_lt (h.within entry hentry)
  case answers =>
    intro n
    have hbefore := h.answers n
    rw [get?] at hbefore ⊢
    rw [lookup_taken, List.find?_append]
    by_cases hn : n ∈ c.names
    · have hself : [c].find? (fun d => d.names.contains n) = some c := by
        rw [List.find?_singleton, if_pos (List.contains_iff_mem.mpr hn)]
      rw [hnone n hn] at hbefore
      rw [if_pos hn, ← hbefore, hself]
      exact List.getElem?_concat_length
    · have hother : [c].find? (fun d => d.names.contains n) = none := by
        rw [List.find?_singleton, if_neg (mt List.contains_iff_mem.mp hn)]
      rw [if_neg hn, hother, Option.or_none, ← hbefore]
      cases hlookup : index.lookup n with
      | none => rfl
      | some position =>
        obtain ⟨before, after, hsplit, -⟩ := List.lookup_eq_some_iff.mp hlookup
        have hmem : (n, position) ∈ index := by
          rw [hsplit]
          exact List.mem_append_right _ List.mem_cons_self
        exact List.getElem?_append_left (h.within _ hmem)

/-- The next category gets the names that were taken for it. -/
theorem Holds.owners_of_take (h : Holds done index)
    (htake : take done c.key names index = .ok index') (key : String) :
    owners (done ++ [c]) key index' = owners done c.key index' := by
  obtain ⟨-, rfl⟩ := eq_of_take htake
  refine List.map_congr_left fun entry hentry => ?_
  rcases List.mem_append.mp hentry with hentry | hentry
  · rw [List.mem_reverse, List.mem_map] at hentry
    obtain ⟨name, -, rfl⟩ := hentry
    rw [List.getElem?_concat_length, List.getElem?_eq_none (Nat.le_refl _)]
    rfl
  · rw [List.getElem?_append_left (h.within entry hentry),
      List.getElem?_eq_getElem (h.within entry hentry)]
    rfl

end Index

/-- The categories of entries, with an index of their names. -/
def indexAll (root : Path) : List CategoryEntry → List Category → Index →
    Except RegistryError (List Category × Index)
  | [], done, index => .ok (done, index)
  | e :: es, done, index => do
    let index ← index.take done e.key e.names
    let c ← Registry.category root e
    indexAll root es (done ++ [c]) index

/-- Reading with an index agrees with reading without: the same error, or the same categories
after those that there were, and an index in which names lead to them. -/
def Index.Agrees (done : List Category) :
    Except RegistryError (List Category) → Except RegistryError (List Category × Index) → Prop
  | .error err, result => result = .error err
  | .ok cs, result => ∃ index, result = .ok (done ++ cs, index) ∧ Index.Holds (done ++ cs) index

/-- **Reading with an index** comes to the same as reading without. -/
theorem indexAll_agrees {root : Path} {es : List CategoryEntry} {done : List Category}
    {index : Index} (h : index.Holds done) (key : String) :
    Index.Agrees done (Registry.categoriesOf root es (index.owners done key))
      (indexAll root es done index) := by
  induction es generalizing done index key with
  | nil =>
    refine ⟨index, ?_, ?_⟩
    · rw [List.append_nil]
      rfl
    · rwa [List.append_nil]
  | cons e es ih =>
    rw [Registry.categoriesOf, indexAll, ← Index.owners_congr h.within key e.key,
      Index.takeNames_owners]
    cases htake : Index.take done e.key e.names index with
    | error err => rfl
    | ok taken =>
      show Index.Agrees done (Registry.category root e >>= _) (Registry.category root e >>= _)
      cases hc : Registry.category root e with
      | error err => rfl
      | ok c =>
        obtain ⟨hnames, -⟩ := Registry.fields_of_category hc
        have hkey : c.key = e.key := (List.cons.inj hnames).1
        rw [← hkey, ← hnames] at htake
        have hrest := ih (h.concat htake) c.key
        rw [h.owners_of_take htake, hkey] at hrest
        show Index.Agrees done (Registry.categoriesOf root es (taken.owners done e.key) >>= _)
          (indexAll root es (done ++ [c]) taken)
        cases hcs : Registry.categoriesOf root es (taken.owners done e.key) with
        | error err =>
          rw [hcs] at hrest
          exact hrest
        | ok cs =>
          rw [hcs] at hrest
          obtain ⟨index', hindex, hholds⟩ := hrest
          rw [← List.append_cons] at hindex hholds
          exact ⟨index', hindex, hholds⟩

end LintRun
