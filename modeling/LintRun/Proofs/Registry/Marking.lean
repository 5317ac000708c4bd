import LintRun.Proofs.Registry.Index

/-!
# Selecting with marks

Categories can be selected with one mark for each: the names of a request are looked up in an
index of positions one after another, each sets the mark at its position, and what is marked in
the end is selected.

In the index of a registry a name leads to the position of the one category that answers to it
(`mem_names_iff`).  So the marks set for some names are those of the categories that answer to
them (`mark?_append`), none is out of its place, and marking comes to the same selection or error
as asking each category (`select?_eq`); `selection_law` says what that is.

The program selects in this way (`select` of `CategoryRegistry`).  Marks are read as a
predicate on categories: a row of marks is `done.map p`, and setting the mark at the position
of a name adds "or answers to the name" to `p` (`Holds.set_map`).  That needs categories not to
share names, else a name would have one position and two categories that answer to it.  The row
for no names is the predicate that is false throughout, and by induction on the names the row
for a request is whether some name of it is answered to, which is the filter that the other
form of selecting applies.
-/

namespace LintRun

/-- A category goes by a name: it is its key or an alias. -/
def Category.AnswersTo (c : Category) (n : String) : Prop := n = c.key ∨ n ∈ c.aliases

theorem Category.answersTo_iff {c : Category} {n : String} : c.AnswersTo n ↔ n ∈ c.names := by
  rw [AnswersTo, names, List.mem_cons]

/-! ## 1. Marks

A position without a mark would be a fault of the program and not of the request, so it is told
apart from an unknown name; in the index of a registry there is none. -/

namespace Index

/-- Sets the mark at the position of each name, up to the first name that leads nowhere; a
position without a mark ends it all. -/
def mark? (index : Index) : List String → List Bool → Option (Except RegistryError (List Bool))
  | [], marks => some (.ok marks)
  | n :: names, marks =>
    match index.lookup n with
    | none => some (.error (.unknownCategory n))
    | some position =>
      if position < marks.length then mark? index names (marks.set position true) else none

/-- The categories that are marked, in their order. -/
def marked (done : List Category) (marks : List Bool) : List Category :=
  (done.zip marks).filterMap fun (c, wanted) => if wanted then some c else none

/-- The categories that a request asks for, found with an index. -/
def select? (done : List Category) (index : Index) (names : List String) :
    Option (Except RegistryError (List Category)) :=
  if names.isEmpty then some (.ok done)
  else (index.mark? names (List.replicate done.length false)).map (Except.map (marked done))

variable {done : List Category} {index : Index} {n : String} {p : Category → Bool}

/-- Marks that come from a predicate select by it. -/
theorem marked_map (done : List Category) (p : Category → Bool) :
    marked done (done.map p) = done.filter p := by
  induction done with
  | nil => rfl
  | cons c done ih =>
    rw [marked, List.map_cons, List.zip_cons_cons, List.filterMap_cons, List.filter_cons]
    cases p c with
    | true => exact congrArg (c :: ·) ih
    | false => exact ih

/-- **A name leads to one position**, that of the category which answers to it. -/
theorem Holds.mem_names_iff (h : Holds done index)
    (hapart : done.Pairwise fun c d => c.names.Disjoint d.names) {position k : Nat} {c : Category}
    (hlookup : index.lookup n = some position) (hk : done[k]? = some c) :
    n ∈ c.names ↔ k = position := by
  have hanswers := h.answers n
  rw [get?, hlookup, Option.bind_some] at hanswers
  obtain ⟨hlt, hat⟩ := List.getElem?_eq_some_iff.mp hk
  have hposition : position < done.length := h.within _ (mem_of_lookup_eq hlookup)
  rw [List.getElem?_eq_getElem hposition] at hanswers
  have hthere : n ∈ done[position].names := by
    have hfound := List.find?_some hanswers.symm
    rwa [List.contains_iff_mem] at hfound
  constructor
  · -- Two categories that both went by the name would share it.
    intro hn
    rw [← hat] at hn
    have hdisjoint := List.pairwise_iff_getElem.mp hapart
    rcases Nat.lt_trichotomy k position with hbefore | hsame | hafter
    · exact absurd hthere (hdisjoint k position hlt hposition hbefore hn)
    · exact hsame
    · exact absurd hn (hdisjoint position k hposition hlt hafter hthere)
  · rintro rfl
    rwa [← hat]

/-- **One mark more**: that of the category which answers to the name. -/
theorem Holds.set_map (h : Holds done index)
    (hapart : done.Pairwise fun c d => c.names.Disjoint d.names) {position : Nat}
    (hlookup : index.lookup n = some position) :
    (done.map p).set position true = done.map fun c => p c || c.names.contains n := by
  refine List.ext_getElem? fun k => ?_
  rw [List.getElem?_set, List.getElem?_map, List.getElem?_map, List.length_map]
  cases hk : done[k]? with
  | none =>
    have hlength := List.getElem?_eq_none_iff.mp hk
    by_cases hposition : position = k
    · rw [if_pos hposition, if_neg (by omega)]
      rfl
    · rw [if_neg hposition]
      rfl
  | some c =>
    have hmem := h.mem_names_iff hapart hlookup hk
    by_cases hposition : position = k
    · have hlt : position < done.length := hposition ▸ (List.getElem?_eq_some_iff.mp hk).1
      have hn : c.names.contains n = true := List.contains_iff_mem.mpr (hmem.mpr hposition.symm)
      rw [if_pos hposition, if_pos hlt, Option.map_some, hn, Bool.or_true]
    · have hn : c.names.contains n = false := by
        rw [Bool.eq_false_iff, Ne, List.contains_iff_mem, hmem]
        exact fun hsame => hposition hsame.symm
      rw [if_neg hposition, Option.map_some, Option.map_some, hn, Bool.or_false]

/-- A name leads nowhere exactly if no category answers to it. -/
theorem Holds.lookup_eq_none_iff (h : Holds done index) :
    index.lookup n = none ↔ ∀ c ∈ done, n ∉ c.names := by
  have hanswers := h.answers n
  rw [get?] at hanswers
  have hfind : done.find? (fun c => c.names.contains n) = none ↔ ∀ c ∈ done, n ∉ c.names := by
    simp only [List.find?_eq_none, List.contains_eq_mem, decide_eq_true_eq]
  rw [← hfind, ← hanswers]
  cases hlookup : index.lookup n with
  | none => exact iff_of_true rfl rfl
  | some position =>
    have hposition : position < done.length := h.within _ (mem_of_lookup_eq hlookup)
    rw [Option.bind_some, List.getElem?_eq_getElem hposition]
    exact iff_of_false (Option.some_ne_none _) (Option.some_ne_none _)

/-- **One known name** sets the mark of the category that answers to it. -/
theorem Holds.mark?_cons (h : Holds done index)
    (hapart : done.Pairwise fun c d => c.names.Disjoint d.names)
    (hn : ∃ c ∈ done, n ∈ c.names) (names : List String) :
    index.mark? (n :: names) (done.map p) =
      index.mark? names (done.map fun c => p c || c.names.contains n) := by
  cases hlookup : index.lookup n with
  | none =>
    obtain ⟨c, hc, hnc⟩ := hn
    exact absurd hnc (h.lookup_eq_none_iff.mp hlookup c hc)
  | some position =>
    have hposition : position < (done.map p).length := by
      rw [List.length_map]
      exact h.within _ (mem_of_lookup_eq hlookup)
    rw [mark?, hlookup]
    dsimp only
    rw [if_pos hposition, h.set_map hapart hlookup]

/-- **Known names** set the marks of the categories that answer to them, next to those that were
set before. -/
theorem Holds.mark?_append (h : Holds done index)
    (hapart : done.Pairwise fun c d => c.names.Disjoint d.names) {before : List String}
    (hknown : ∀ n ∈ before, ∃ c ∈ done, n ∈ c.names) (rest : List String) :
    index.mark? (before ++ rest) (done.map p) =
      index.mark? rest (done.map fun c => p c || before.any c.names.contains) := by
  induction before generalizing p with
  | nil => simp only [List.nil_append, List.any_nil, Bool.or_false]
  | cons n before ih =>
    obtain ⟨hn, hbefore⟩ := List.forall_mem_cons.mp hknown
    rw [List.cons_append, h.mark?_cons hapart hn, ih hbefore]
    simp only [List.any_cons, Bool.or_assoc]

end Index

/-! ## 2. Selections

Known names come before the first unknown one, and are marked in vain. -/

namespace Registry

variable {r : Registry} {names : List String} {n : String} {index : Index}

/-- A known name is one that some category answers to. -/
theorem get?_ne_none_iff : r.get? n ≠ none ↔ ∃ c ∈ r.categories, n ∈ c.names := by
  rw [Ne, get?_eq_none_iff]
  push Not
  rfl

/-- Categories that share no name are different, as each has its key. -/
theorem NamesApart.nodup (h : r.NamesApart) : r.categories.Nodup := by
  refine h.imp ?_
  rintro c _ hdisjoint rfl
  exact hdisjoint List.mem_cons_self List.mem_cons_self

/-- **The first unknown name** is what a selection fails with. -/
theorem select_eq_error_iff_append {err : RegistryError} :
    r.select names = .error err ↔ ∃ before n after, names = before ++ n :: after ∧
      (∀ m ∈ before, r.get? m ≠ none) ∧ r.get? n = none ∧ err = .unknownCategory n := by
  have hfind (n : String) : names.find? (fun m => (r.get? m).isNone) = some n ↔
      ∃ before after, names = before ++ n :: after ∧ (∀ m ∈ before, r.get? m ≠ none) ∧
        r.get? n = none := by
    rw [List.find?_eq_some_iff_append, Option.isNone_iff_eq_none, and_comm]
    simp only [Bool.not_eq_true', Option.isNone_eq_false_iff, Option.isSome_iff_ne_none,
      ← exists_and_right, and_assoc]
  constructor
  · intro h
    obtain ⟨m, hm, -⟩ := select_eq_error_iff.mp ⟨err, h⟩
    rw [select, if_neg (by simpa using List.ne_nil_of_mem hm)] at h
    cases hfirst : names.find? fun n => (r.get? n).isNone with
    | none =>
      rw [hfirst] at h
      cases h
    | some n =>
      rw [hfirst] at h
      cases h
      obtain ⟨before, after, hsplit, hbefore, hn⟩ := (hfind n).mp hfirst
      exact ⟨before, n, after, hsplit, hbefore, hn, rfl⟩
  · rintro ⟨before, n, after, hsplit, hbefore, hn, rfl⟩
    have hfirst := (hfind n).mpr ⟨before, after, hsplit, hbefore, hn⟩
    rw [select, hfirst, hsplit, if_neg (by simp)]

/-- **Marking is asking each category.** -/
theorem select?_eq (h : index.Holds r.categories) (hapart : r.NamesApart) :
    index.select? r.categories names = some (r.select names) := by
  have hnone : List.replicate r.categories.length false = r.categories.map fun _ => false :=
    List.map_const' .. |>.symm
  by_cases hnames : names = []
  · rw [hnames]
    rfl
  rw [Index.select?, if_neg (by simpa using hnames), hnone]
  cases hselect : r.select names with
  | error err =>
    obtain ⟨before, n, after, rfl, hbefore, hn, rfl⟩ := select_eq_error_iff_append.mp hselect
    have hlookup := h.lookup_eq_none_iff.mpr (get?_eq_none_iff.mp hn)
    rw [h.mark?_append hapart fun m hm => get?_ne_none_iff.mp (hbefore m hm), Index.mark?, hlookup]
    rfl
  | ok cs =>
    have hknown (n) (hn : n ∈ names) : r.get? n ≠ none := fun hunknown => by
      obtain ⟨err, herr⟩ := select_eq_error_iff.mpr ⟨n, hn, hunknown⟩
      rw [hselect] at herr
      cases herr
    have hmarks := h.mark?_append (p := fun _ => false) hapart
      (fun n hn => get?_ne_none_iff.mp (hknown n hn)) []
    rw [List.append_nil] at hmarks
    rw [hmarks, Index.mark?, ← hselect, select_eq_ok_of_known hnames hknown]
    refine congrArg (some ∘ Except.ok) ?_
    rw [Index.marked_map]
    refine List.filter_congr fun c _ => ?_
    rw [Bool.false_or, Bool.eq_iff_iff, answers_iff]
    simp only [List.any_eq_true, List.contains_iff_mem]

/-- **The index that reading a file leaves** leads from names to the categories of the registry. -/
theorem exists_index {sourceRoot : Path} {file : RegistryFile}
    (h : ofFile sourceRoot file = .ok r) :
    ∃ index, indexAll sourceRoot.normalize file.categories [] [] = .ok (r.categories, index) ∧
      index.Holds r.categories := by
  obtain ⟨hcategories, -⟩ := ofFile_eq_ok_iff.mp h
  have hindex : Index.Agrees []
      (categoriesOf sourceRoot.normalize file.categories (Index.owners [] "" []))
      (indexAll sourceRoot.normalize file.categories [] []) :=
    indexAll_agrees Index.holds_empty ""
  rw [show Index.owners [] "" [] = [] from rfl, hcategories] at hindex
  exact hindex

end Registry

/-- **A selection** is what a request asks for.  Without names it is all categories.  With names it
fails exactly if no category answers to one of them, and the error names the first of those;
otherwise it is the categories that answer to some name, in the order of the registry and each
once.  Selecting with marks, in the index that reading the registry file leaves, comes to the same
selection or error, and no position is without a mark. -/
theorem selection_law {sourceRoot : Path} {file : RegistryFile} {r : Registry}
    (h : Registry.ofFile sourceRoot file = .ok r) (names : List String) :
    (names = [] → r.select names = .ok r.categories) ∧
    ((∃ err, r.select names = .error err) ↔ ∃ n ∈ names, ∀ c ∈ r.categories, ¬c.AnswersTo n) ∧
    (∀ err, r.select names = .error err ↔ ∃ before n after, names = before ++ n :: after ∧
      (∀ m ∈ before, ∃ c ∈ r.categories, c.AnswersTo m) ∧ (∀ c ∈ r.categories, ¬c.AnswersTo n) ∧
      err = .unknownCategory n) ∧
    (names ≠ [] → (∀ n ∈ names, ∃ c ∈ r.categories, c.AnswersTo n) →
      ∃ cs, r.select names = .ok cs ∧ cs.Sublist r.categories ∧ cs.Nodup ∧
        ∀ c, c ∈ cs ↔ c ∈ r.categories ∧ ∃ n ∈ names, c.AnswersTo n) ∧
    ∃ index, indexAll sourceRoot.normalize file.categories [] [] = .ok (r.categories, index) ∧
      index.select? r.categories names = some (r.select names) := by
  have hapart := Registry.namesApart_of_ofFile h
  simp only [Category.answersTo_iff]
  refine ⟨?_, ?_, fun err => ?_, fun hnames hknown => ?_, ?_⟩
  · rintro rfl
    rfl
  · rw [Registry.select_eq_error_iff]
    simp only [Registry.get?_eq_none_iff]
  · rw [Registry.select_eq_error_iff_append]
    simp only [Registry.get?_ne_none_iff, Registry.get?_eq_none_iff]
  · have hselect := Registry.select_eq_ok_of_known hnames fun n hn =>
      Registry.get?_ne_none_iff.mpr (hknown n hn)
    refine ⟨_, hselect, List.filter_sublist, hapart.nodup.filter _, fun c => ?_⟩
    rw [List.mem_filter, Registry.answers_iff]
  · obtain ⟨index, hindex, hholds⟩ := Registry.exists_index h
    exact ⟨index, hindex, Registry.select?_eq hholds hapart⟩

namespace Example

/-- Scripts, which go by a second name, and then texts. -/
def scriptsAndTexts : RegistryFile where
  categories := [
    { key := "js", aliases := ["script"], roots := ["lib"], extensions := ["js"],
      tool := { program := "jslint" } },
    { key := "txt", roots := ["doc"], extensions := ["txt"], tool := { program := "spell" } }]

/-- Three names for two categories, in another order than theirs; and of two unknown names the
first is reported. -/
theorem selection_law_scripts :
    ∃ r cs, Registry.ofFile (.ofString "/src") scriptsAndTexts = .ok r ∧
      (∀ n ∈ ["txt", "script", "js"], ∃ c ∈ r.categories, c.AnswersTo n) ∧
      r.select ["txt", "script", "js"] = .ok cs ∧ cs.Nodup ∧ cs.map Category.key = ["js", "txt"] ∧
      r.select ["js", "rs", "go"] = .error (.unknownCategory "rs") := by
  obtain ⟨r, hr⟩ : ∃ r, Registry.ofFile (.ofString "/src") scriptsAndTexts = .ok r := ⟨_, rfl⟩
  have hknown : ∀ n ∈ ["txt", "script", "js"], ∃ c ∈ r.categories, c.AnswersTo n := by
    cases hr
    simp [Category.AnswersTo]
  have hunknown : ∀ c ∈ r.categories, ¬c.AnswersTo "rs" := by
    cases hr
    simp [Category.AnswersTo]
  obtain ⟨-, -, -, hselected, -⟩ := selection_law hr ["txt", "script", "js"]
  obtain ⟨cs, hcs, -, hnodup, -⟩ := hselected (List.cons_ne_nil _ _) hknown
  obtain ⟨-, -, hfails, -, -⟩ := selection_law hr ["js", "rs", "go"]
  refine ⟨r, cs, hr, hknown, hcs, hnodup, ?_, ?_⟩
  · cases hr
    cases hcs
    rfl
  · refine (hfails _).mpr ⟨["js"], "rs", ["go"], rfl, fun m hm => ?_, hunknown, rfl⟩
    rw [List.mem_singleton.mp hm]
    exact hknown "js" (by simp)

end Example

end LintRun
