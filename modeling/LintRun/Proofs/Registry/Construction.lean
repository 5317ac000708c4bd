import LintRun.Proofs.Registry.Index
import LintRun.Proofs.Registry.Validity

/-!
# Which registry files make a registry

A file makes a registry exactly if its entries are valid and all their names are different
(`AreValid`).  Otherwise it fails with the offence of the first entry that commits one
(`Offence`): a clash of names with the entries before or with itself comes first, and then what
is wrong with the entry by itself.

Entries are read with the owners of the names so far.  After some entries these are the owners
of their names (`Owners.of`), which is what the induction over the entries goes by.

There are two notions side by side: what the program does with a file, a fold that stops at the
first error, and what a maintainer would say of it, in which the entries before an entry are
named outright (`before ++ e :: after`).  Each lemma of the fold is stated for entries that
come after others, so that the induction over the entries has its hypothesis in the form it
needs: the names of the entries before are all different and the owners are exactly theirs.

* `takeNames_of` and `takeNames_of_eq_error_iff`: taking the names of one entry succeeds if
  they are new, and fails with a clash.  An entry may clash with itself, by an alias that is
  its key or stands twice; then it owns the name that it asks for.
* `categoriesOf_cons_of` and `categoriesOf_cons_of_eq_error_iff`: one entry, then the others.
* `categoriesOf_of_eq_ok_iff` and `categoriesOf_of_eq_error_iff`: all entries, by induction.

That a name leads to a category by the index of positions that the program keeps is shown
elsewhere (`Index`); the law takes it over.
-/

namespace LintRun

/-- **One thing after another** fails if the first does, or the second after the first. -/
theorem bind_eq_error_iff {ε α β : Type} {x : Except ε α} {f : α → Except ε β} {err : ε} :
    (x >>= f) = .error err ↔ x = .error err ∨ ∃ a, x = .ok a ∧ f a = .error err := by
  cases x with
  | error err' =>
    constructor
    · rintro ⟨⟩
      exact .inl rfl
    · rintro (⟨⟨⟩⟩ | ⟨_, ⟨⟩, -⟩)
      rfl
  | ok a =>
    constructor
    · intro h
      exact .inr ⟨a, rfl, h⟩
    · rintro (⟨⟨⟩⟩ | ⟨_, ⟨⟩, h⟩)
      exact h

/-! ## 1. Names of entries

Owners are kept with the latest first, which is why the list of names is turned round.  As long
as no name stands twice it makes no difference which one is found. -/

/-- **New names**: they are different, and none is a name of the entries before. -/
def AreNew (before : List CategoryEntry) (names : List String) : Prop :=
  names.Nodup ∧ ∀ n ∈ names, ∀ d ∈ before, n ∉ d.names

namespace Registry

variable {e : CategoryEntry} {err : RegistryError}

/-- The owners of the names of entries. -/
def Owners.of (before : List CategoryEntry) : Owners :=
  (before.flatMap fun e => e.names.map (·, e.key)).reverse

variable {before : List CategoryEntry} {n key first : String} {owners owners' : Owners}

theorem names_of : (Owners.of before).names = (before.flatMap CategoryEntry.names).reverse := by
  rw [Owners.names, Owners.of, List.map_reverse, List.map_flatMap]
  simp only [List.map_map, Function.comp_def, List.map_id']

/-- A name is taken if an entry before has it. -/
theorem mem_names_of : n ∈ (Owners.of before).names ↔ ∃ d ∈ before, n ∈ d.names := by
  rw [names_of, List.mem_reverse, List.mem_flatMap]

/-- **The owner of a name** is the entry that has it. -/
theorem lookup_of (h : (before.flatMap CategoryEntry.names).Nodup) :
    (Owners.of before).lookup n = some first ↔ ∃ d ∈ before, n ∈ d.names ∧ d.key = first := by
  have hnodup : (Owners.of before).names.Nodup := by
    rw [names_of, List.nodup_reverse]
    exact h
  rw [lookup_eq_some_iff hnodup, Owners.of, List.mem_reverse, List.mem_flatMap]
  simp only [List.mem_map, Prod.mk.injEq]
  refine exists_congr fun d => and_congr_right fun _ => ?_
  constructor
  · rintro ⟨_, hn, rfl, hfirst⟩
    exact ⟨hn, hfirst⟩
  · rintro ⟨hn, hfirst⟩
    exact ⟨n, hn, rfl, hfirst⟩

/-- **Taking names fails** with the first that has an owner once the names before it were
taken. -/
theorem takeNames_eq_error_iff {names : List String} :
    takeNames key names owners = .error err ↔
      ∃ earlier name later owners' first, names = earlier ++ name :: later ∧
        takeNames key earlier owners = .ok owners' ∧ owners'.lookup name = some first ∧
        .duplicateName name first key = err := by
  induction names generalizing owners with
  | nil =>
    refine iff_of_false nofun ?_
    rintro ⟨earlier, name, later, -, -, hsplit, -⟩
    simp at hsplit
  | cons m names ih =>
    rw [takeNames]
    cases hlookup : owners.lookup m with
    | some first =>
      constructor
      · rintro ⟨⟩
        exact ⟨[], m, names, owners, first, rfl, rfl, hlookup, rfl⟩
      · rintro ⟨earlier, name, later, owners', first', hsplit, htake, hname, rfl⟩
        cases earlier with
        | nil =>
          cases hsplit
          cases htake
          cases hlookup.symm.trans hname
          rfl
        | cons m' earlier =>
          cases hsplit
          rw [takeNames, hlookup] at htake
          cases htake
    | none =>
      show takeNames key names ((m, key) :: owners) = .error err ↔ _
      rw [ih]
      constructor
      · rintro ⟨earlier, name, later, owners', first, rfl, htake, hname, herr⟩
        refine ⟨m :: earlier, name, later, owners', first, rfl, ?_, hname, herr⟩
        rw [takeNames, hlookup]
        exact htake
      · rintro ⟨earlier, name, later, owners', first, hsplit, htake, hname, herr⟩
        cases earlier with
        | nil =>
          cases hsplit
          cases htake
          cases hlookup.symm.trans hname
        | cons m' earlier =>
          cases hsplit
          rw [takeNames, hlookup] at htake
          exact ⟨earlier, name, later, owners', first, rfl, htake, hname, herr⟩

/-- **One entry more** has new names. -/
theorem nodup_concat_iff :
    ((before ++ [e]).flatMap CategoryEntry.names).Nodup ↔
      (before.flatMap CategoryEntry.names).Nodup ∧ AreNew before e.names := by
  rw [List.flatMap_append, List.flatMap_singleton, List.nodup_append', AreNew]
  refine and_congr_right fun _ => and_congr_right fun _ => ?_
  constructor
  · intro hdisjoint n hn d hd hnd
    exact hdisjoint (List.mem_flatMap.mpr ⟨d, hd, hnd⟩) hn
  · intro hnew n hbefore hn
    obtain ⟨d, hd, hnd⟩ := List.mem_flatMap.mp hbefore
    exact hnew n hn d hd hnd

/-- Entries that come first have different names if all have. -/
theorem nodup_of_append {es : List CategoryEntry}
    (h : ((before ++ es).flatMap CategoryEntry.names).Nodup) :
    (before.flatMap CategoryEntry.names).Nodup := by
  rw [List.flatMap_append] at h
  exact h.of_append_left

/-- **Taking names after other entries** succeeds if they are new. -/
theorem takeNames_of {names : List String} :
    takeNames key names (Owners.of before) = .ok owners' ↔
      AreNew before names ∧ (names.map (·, key)).reverse ++ Owners.of before = owners' := by
  rw [takeNames_eq_ok_iff, AreNew, and_assoc]
  refine and_congr_right fun _ => and_congr_left fun _ => ?_
  constructor
  · intro hfree n hn d hd hnd
    exact hfree hn (mem_names_of.mpr ⟨d, hd, hnd⟩)
  · intro hnew n hn htaken
    obtain ⟨d, hd, hnd⟩ := mem_names_of.mp htaken
    exact hnew n hn d hd hnd

end Registry

/-! ## 2. Entries one after another

Names come before everything else: an entry whose names clash fails with the clash, even if it
is faulty by itself. -/

/-- **Valid entries**: each by itself, and all their names are different. -/
structure AreValid (es : List CategoryEntry) : Prop where
  names : (es.flatMap CategoryEntry.names).Nodup
  each : ∀ e ∈ es, e.IsValid

/-- **The clash of an entry** with others: its first name that is a name of an entry before, or
its own for the second time, with the keys of the entry that introduced the name and of the
entry that repeats it. -/
inductive Clashes (before : List CategoryEntry) (e : CategoryEntry) : RegistryError → Prop
  | taken {earlier later : List String} {name : String} {d : CategoryEntry} :
      e.names = earlier ++ name :: later → AreNew before earlier → d ∈ before →
      name ∈ d.names → Clashes before e (.duplicateName name d.key e.key)
  | repeated {earlier later : List String} {name : String} :
      e.names = earlier ++ name :: later → AreNew before earlier → name ∈ earlier →
      Clashes before e (.duplicateName name e.key e.key)

/-- **The offence of an entry** after others: its clash with them, and if there is none, what is
wrong with it by itself. -/
inductive Offence (before : List CategoryEntry) (e : CategoryEntry) : RegistryError → Prop
  | name {err : RegistryError} : Clashes before e err → Offence before e err
  | own {err : RegistryError} : AreNew before e.names → e.Fails err → Offence before e err

/-- What clashes is not new. -/
theorem Clashes.not_areNew {before : List CategoryEntry} {e : CategoryEntry}
    {err : RegistryError} (h : Clashes before e err) : ¬AreNew before e.names := by
  rintro ⟨hnodup, hfresh⟩
  cases h with
  | taken hsplit _ hd hnd =>
    exact hfresh _ (hsplit ▸ List.mem_append_right _ List.mem_cons_self) _ hd hnd
  | repeated hsplit _ hearlier =>
    rw [hsplit, List.nodup_append'] at hnodup
    exact hnodup.2.2 hearlier List.mem_cons_self

/-- With new names an offence is one by itself, so that the entry is not valid: no file is both
refused and valid. -/
theorem Offence.not_isValid {before : List CategoryEntry} {e : CategoryEntry}
    {err : RegistryError} (h : Offence before e err) (hnew : AreNew before e.names) :
    ¬e.IsValid := by
  cases h with
  | name hclash => exact absurd hnew hclash.not_areNew
  | own _ hfails => exact hfails.not_isValid

namespace Registry

variable {root : Path} {before es : List CategoryEntry} {e : CategoryEntry} {cs : List Category}
  {err : RegistryError}

/-- **The owners after one entry more** are the owners of the entries so far; this keeps the
hypothesis of the induction. -/
theorem owners_concat :
    (e.names.map (·, e.key)).reverse ++ Owners.of before = Owners.of (before ++ [e]) := by
  rw [Owners.of, Owners.of, List.flatMap_append, List.flatMap_singleton, List.reverse_append]

/-- **Taking names after other entries** fails with a clash. -/
theorem takeNames_of_eq_error_iff (hbefore : (before.flatMap CategoryEntry.names).Nodup) :
    takeNames e.key e.names (Owners.of before) = .error err ↔ Clashes before e err := by
  rw [takeNames_eq_error_iff]
  constructor
  · rintro ⟨earlier, name, later, owners', first, hsplit, htake, hname, rfl⟩
    obtain ⟨hnew, rfl⟩ := takeNames_of.mp htake
    rw [lookup_taken] at hname
    by_cases hearlier : name ∈ earlier
    · rw [if_pos hearlier] at hname
      cases hname
      exact .repeated hsplit hnew hearlier
    · rw [if_neg hearlier] at hname
      obtain ⟨d, hd, hnd, rfl⟩ := (lookup_of hbefore).mp hname
      exact .taken hsplit hnew hd hnd
  · intro hclash
    cases hclash with
    | repeated hsplit hnew hearlier =>
      refine ⟨_, _, _, _, _, hsplit, takeNames_of.mpr ⟨hnew, rfl⟩, ?_, rfl⟩
      rw [lookup_taken, if_pos hearlier]
    | @taken earlier _ name d hsplit hnew hd hnd =>
      refine ⟨_, _, _, _, _, hsplit, takeNames_of.mpr ⟨hnew, rfl⟩, ?_, rfl⟩
      have hfresh : name ∉ earlier := fun hearlier => hnew.2 name hearlier d hd hnd
      rw [lookup_taken, if_neg hfresh]
      exact (lookup_of hbefore).mpr ⟨d, hd, hnd, rfl⟩

/-- **One entry** after others whose names are taken. -/
theorem categoriesOf_cons_of :
    categoriesOf root (e :: es) (Owners.of before) = .ok cs ↔
      AreNew before e.names ∧ ∃ c, category root e = .ok c ∧
        ∃ cs', categoriesOf root es (Owners.of (before ++ [e])) = .ok cs' ∧ c :: cs' = cs := by
  rw [categoriesOf_cons_eq_ok_iff]
  constructor
  · rintro ⟨owners', htake, hrest⟩
    obtain ⟨hnew, rfl⟩ := takeNames_of.mp htake
    rw [owners_concat] at hrest
    exact ⟨hnew, hrest⟩
  · rintro ⟨hnew, hrest⟩
    exact ⟨_, takeNames_of.mpr ⟨hnew, owners_concat⟩, hrest⟩

/-- **One entry fails** with its offence, or one after it does. -/
theorem categoriesOf_cons_of_eq_error_iff
    (hbefore : (before.flatMap CategoryEntry.names).Nodup) :
    categoriesOf root (e :: es) (Owners.of before) = .error err ↔
      Offence before e err ∨ (AreNew before e.names ∧ e.IsValid ∧
        categoriesOf root es (Owners.of (before ++ [e])) = .error err) := by
  rw [categoriesOf]
  simp only [bind_eq_error_iff, takeNames_of_eq_error_iff hbefore, category_eq_error_iff,
    takeNames_of, owners_concat, pure, Except.pure, reduceCtorEq, and_false, exists_false,
    or_false]
  constructor
  · rintro (hclash | ⟨_, ⟨hnew, rfl⟩, hfails | ⟨c, hc, hrest⟩⟩)
    · exact .inl (.name hclash)
    · exact .inl (.own hnew hfails)
    · exact .inr ⟨hnew, exists_category_iff.mp ⟨c, hc⟩, hrest⟩
  · rintro (hoffence | ⟨hnew, hvalid, hrest⟩)
    · cases hoffence with
      | name hclash => exact .inl hclash
      | own hnew hfails => exact .inr ⟨_, ⟨hnew, rfl⟩, .inl hfails⟩
    · obtain ⟨c, hc⟩ := exists_category_iff.mpr hvalid
      exact .inr ⟨_, ⟨hnew, rfl⟩, .inr ⟨c, hc, hrest⟩⟩

/-- **The categories of entries** after others. -/
theorem categoriesOf_of_eq_ok_iff (hbefore : (before.flatMap CategoryEntry.names).Nodup) :
    categoriesOf root es (Owners.of before) = .ok cs ↔
      ((before ++ es).flatMap CategoryEntry.names).Nodup ∧
        List.Forall₂ (fun e c => category root e = .ok c) es cs := by
  induction es generalizing before cs with
  | nil =>
    rw [List.append_nil, List.forall₂_nil_left_iff]
    show Except.ok [] = Except.ok cs ↔ _
    constructor
    · rintro ⟨⟩
      exact ⟨hbefore, rfl⟩
    · rintro ⟨-, rfl⟩
      rfl
  | cons e es ih =>
    rw [categoriesOf_cons_of, List.forall₂_cons_left_iff, List.append_cons before e es]
    constructor
    · rintro ⟨hnew, c, hc, cs', hrest, rfl⟩
      obtain ⟨hnodup, hcategories⟩ := (ih (nodup_concat_iff.mpr ⟨hbefore, hnew⟩)).mp hrest
      exact ⟨hnodup, c, cs', hc, hcategories, rfl⟩
    · rintro ⟨hnodup, c, cs', hc, hcategories, rfl⟩
      have hconcat : ((before ++ [e]).flatMap CategoryEntry.names).Nodup :=
        nodup_of_append hnodup
      exact ⟨(nodup_concat_iff.mp hconcat).2, c, hc, cs',
        (ih hconcat).mpr ⟨hnodup, hcategories⟩, rfl⟩

/-- **Entries fail** with the offence of the first that commits one. -/
theorem categoriesOf_of_eq_error_iff (hbefore : (before.flatMap CategoryEntry.names).Nodup) :
    categoriesOf root es (Owners.of before) = .error err ↔
      ∃ good e after, es = good ++ e :: after ∧
        ((before ++ good).flatMap CategoryEntry.names).Nodup ∧ (∀ d ∈ good, d.IsValid) ∧
          Offence (before ++ good) e err := by
  induction es generalizing before with
  | nil =>
    refine iff_of_false nofun ?_
    rintro ⟨good, e, after, hsplit, -⟩
    simp at hsplit
  | cons e es ih =>
    rw [categoriesOf_cons_of_eq_error_iff hbefore]
    constructor
    · rintro (hoffence | ⟨hnew, hvalid, hrest⟩)
      · refine ⟨[], e, es, rfl, ?_, List.forall_mem_nil _, ?_⟩
        · rwa [List.append_nil]
        · rwa [List.append_nil]
      · obtain ⟨good, e', after, rfl, hnodup, hgood, hoffence⟩ :=
          (ih (nodup_concat_iff.mpr ⟨hbefore, hnew⟩)).mp hrest
        rw [← List.append_cons before e good] at hnodup hoffence
        refine ⟨e :: good, e', after, rfl, hnodup, fun d hd => ?_, hoffence⟩
        rcases List.mem_cons.mp hd with rfl | hd
        · exact hvalid
        · exact hgood d hd
    · rintro ⟨good, e', after, hsplit, hnodup, hgood, hoffence⟩
      cases good with
      | nil =>
        cases hsplit
        rw [List.append_nil] at hoffence
        exact .inl hoffence
      | cons d good =>
        cases hsplit
        rw [List.append_cons before e good] at hnodup hoffence
        have hconcat : ((before ++ [e]).flatMap CategoryEntry.names).Nodup :=
          nodup_of_append hnodup
        refine .inr ⟨(nodup_concat_iff.mp hconcat).2, hgood e List.mem_cons_self, ?_⟩
        exact (ih hconcat).mpr ⟨good, e', after, rfl, hnodup,
          fun d hd => hgood d (List.mem_cons_of_mem e hd), hoffence⟩

end Registry

/-! ## 3. Registry files

A file has no entries before its first, and no names that are taken. -/

/-- **A valid registry file.** -/
def RegistryFile.IsValid (file : RegistryFile) : Prop := AreValid file.categories

namespace Registry

variable {sourceRoot : Path} {file : RegistryFile} {r : Registry} {err : RegistryError}

/-- The rest of a file, its blacklist and its command for changed files, cannot fail. -/
theorem ofFile_eq_error_iff :
    ofFile sourceRoot file = .error err ↔
      categoriesOf sourceRoot.normalize file.categories [] = .error err := by
  rw [ofFile, bind_eq_error_iff]
  refine or_iff_left ?_
  rintro ⟨_, -, ⟨⟩⟩

/-- **A file makes a registry** exactly if it is valid. -/
theorem exists_ofFile_iff : (∃ r, ofFile sourceRoot file = .ok r) ↔ file.IsValid := by
  have hempty : (([] : List CategoryEntry).flatMap CategoryEntry.names).Nodup := .nil
  constructor
  · rintro ⟨r, hr⟩
    obtain ⟨hcategories, -⟩ := ofFile_eq_ok_iff.mp hr
    obtain ⟨hnodup, hall⟩ := (categoriesOf_of_eq_ok_iff hempty).mp hcategories
    refine ⟨hnodup, fun e he => ?_⟩
    obtain ⟨k, hk, rfl⟩ := List.getElem_of_mem he
    exact exists_category_iff.mp ⟨_, hall.get hk (hall.length_eq ▸ hk)⟩
  · rintro ⟨hnodup, hall⟩
    cases hfile : ofFile sourceRoot file with
    | ok r => exact ⟨r, rfl⟩
    | error err =>
      obtain ⟨good, e, after, hsplit, -, -, hoffence⟩ :=
        (categoriesOf_of_eq_error_iff hempty).mp (ofFile_eq_error_iff.mp hfile)
      rw [hsplit] at hall
      rw [hsplit, List.append_cons] at hnodup
      have hconcat : ((good ++ [e]).flatMap CategoryEntry.names).Nodup := nodup_of_append hnodup
      refine absurd (hall e (List.mem_append_right _ List.mem_cons_self)) ?_
      exact hoffence.not_isValid (nodup_concat_iff.mp hconcat).2

/-- A name leads to a category that has it. -/
theorem mem_of_get? {n : String} {c : Category} (h : r.get? n = some c) :
    c ∈ r.categories ∧ n ∈ c.names := by
  rw [get?] at h
  have hn := List.find?_some h
  rw [List.contains_iff_mem] at hn
  exact ⟨List.mem_of_find?_eq_some h, hn⟩

/-- **A name leads to the category that answers to it.** -/
theorem NamesApart.get?_eq_some_iff (h : r.NamesApart) {n : String} {c : Category} :
    r.get? n = some c ↔ c ∈ r.categories ∧ n ∈ c.names := by
  refine ⟨mem_of_get?, ?_⟩
  rintro ⟨hc, hn⟩
  cases hget : r.get? n with
  | none => exact absurd hn (get?_eq_none_iff.mp hget c hc)
  | some d =>
    obtain ⟨hd, hnd⟩ := mem_of_get? hget
    rw [h.eq_of_mem_names hd hc hnd hn]

end Registry

/-- **Registries are made of the valid files, and of no others.**  A file makes a registry exactly
if every entry of it is valid and all names are different.  Then the categories are read from
the entries, one from each and in their order, and a name leads to the category of which it is
the key or an alias.  Otherwise the error is the offence of the first entry that commits one.
Reading the file with an index of positions, some of them of a category that there is not yet,
comes to the same registry or error, and names lead to the same categories. -/
theorem construction_law (sourceRoot : Path) (file : RegistryFile) :
    ((∃ r, Registry.ofFile sourceRoot file = .ok r) ↔ file.IsValid) ∧
    (∀ r, Registry.ofFile sourceRoot file = .ok r →
      List.Forall₂ (fun e c => c.IsReadFrom sourceRoot.normalize e) file.categories r.categories ∧
      (∀ c ∈ r.categories, ∀ n, r.get? n = some c ↔ n = c.key ∨ n ∈ c.aliases) ∧
      (∀ n c, r.get? n = some c → c ∈ r.categories) ∧
      ∃ index, indexAll sourceRoot.normalize file.categories [] [] = .ok (r.categories, index) ∧
        ∀ n, index.get? r.categories n = r.get? n) ∧
    ∀ err, (Registry.ofFile sourceRoot file = .error err ↔
        ∃ before e after, file.categories = before ++ e :: after ∧ AreValid before ∧
          Offence before e err) ∧
      (Registry.ofFile sourceRoot file = .error err →
        indexAll sourceRoot.normalize file.categories [] [] = .error err) := by
  have hempty : (([] : List CategoryEntry).flatMap CategoryEntry.names).Nodup := .nil
  have hindex : Index.Agrees []
      (Registry.categoriesOf sourceRoot.normalize file.categories (Index.owners [] "" []))
      (indexAll sourceRoot.normalize file.categories [] []) :=
    indexAll_agrees Index.holds_empty ""
  refine ⟨Registry.exists_ofFile_iff, fun r hr => ?_, fun err => ⟨?_, fun herr => ?_⟩⟩
  · have hapart := Registry.namesApart_of_ofFile hr
    obtain ⟨hcategories, -⟩ := Registry.ofFile_eq_ok_iff.mp hr
    obtain ⟨-, hall⟩ := (Registry.categoriesOf_of_eq_ok_iff hempty).mp hcategories
    refine ⟨hall.imp fun e c hc => ?_, fun c hc n => ?_, fun n c hget => ?_, ?_⟩
    · have hspec := Registry.category_spec sourceRoot.normalize e
      rw [hc] at hspec
      exact hspec.2
    · rw [hapart.get?_eq_some_iff, and_iff_right hc, Category.names, List.mem_cons]
    · exact (hapart.get?_eq_some_iff.mp hget).1
    · rw [show Index.owners [] "" [] = [] from rfl, hcategories] at hindex
      obtain ⟨index, hresult, hholds⟩ := hindex
      exact ⟨index, hresult, hholds.answers⟩
  · rw [Registry.ofFile_eq_error_iff]
    refine (Registry.categoriesOf_of_eq_error_iff hempty).trans ?_
    refine exists_congr fun before => exists_congr fun e => exists_congr fun after =>
      and_congr_right fun _ => ?_
    constructor
    · rintro ⟨hnodup, hvalid, hoffence⟩
      exact ⟨⟨hnodup, hvalid⟩, hoffence⟩
    · rintro ⟨⟨hnodup, hvalid⟩, hoffence⟩
      exact ⟨hnodup, hvalid, hoffence⟩
  · rw [show Index.owners [] "" [] = [] from rfl, Registry.ofFile_eq_error_iff.mp herr] at hindex
    exact hindex

namespace Example

/-- Scripts. -/
def scriptEntry : CategoryEntry where
  key := "js"
  aliases := ["script"]
  roots := ["src"]
  extensions := ["js"]
  tool := { program := "jslint" }

/-- Modules, which go by a name of scripts as well, and have no roots. -/
def moduleEntry : CategoryEntry where
  key := "py"
  aliases := ["module", "script"]
  roots := []
  extensions := ["."]
  tool := { program := "pylint" }

/-- The second entry has no roots and no extension either; the clash is what is reported. -/
theorem construction_law_clash :
    (∃ r, Registry.ofFile (.ofString "/") { categories := [scriptEntry] } = .ok r ∧
      ∃ c ∈ r.categories, c.key = "js" ∧ r.get? "script" = some c) ∧
    Registry.ofFile (.ofString "/") { categories := [scriptEntry, moduleEntry] } =
      .error (.duplicateName "script" "js" "py") := by
  have hscripts : scriptEntry.IsValid :=
    { key := ⟨'j', by decide, by decide⟩
      roots := by decide
      extensions := ⟨"js", by decide, 'j', by decide, by decide⟩
      program := ⟨'j', by decide, by decide⟩
      noise := nofun }
  have hvalid : AreValid [scriptEntry] :=
    ⟨by decide, fun e he => List.mem_singleton.mp he ▸ hscripts⟩
  obtain ⟨hmakes, hmade, -⟩ := construction_law (.ofString "/") { categories := [scriptEntry] }
  obtain ⟨-, -, hfails⟩ :=
    construction_law (.ofString "/") { categories := [scriptEntry, moduleEntry] }
  constructor
  · obtain ⟨r, hr⟩ := hmakes.mpr hvalid
    obtain ⟨hread, hget, -⟩ := hmade r hr
    obtain ⟨c, cs, hc, -, hcategories⟩ := List.forall₂_cons_left_iff.mp hread
    have hmem : c ∈ r.categories := hcategories ▸ List.mem_cons_self
    refine ⟨r, hr, c, hmem, hc.key, (hget c hmem "script").mpr (.inr ?_)⟩
    rw [hc.aliases]
    exact List.mem_cons_self
  · have hnew : AreNew [scriptEntry] ["py", "module"] := by
      refine ⟨by decide, fun n hn d hd => ?_⟩
      rw [List.mem_singleton.mp hd]
      revert n
      decide
    exact (hfails _).1.mpr ⟨[scriptEntry], moduleEntry, [], rfl, hvalid,
      .name (.taken rfl hnew List.mem_cons_self (by decide))⟩

end Example

end LintRun
