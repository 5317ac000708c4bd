import LintRun.Proofs.Lookup
import LintRun.Registry.Basic
import Mathlib.Data.List.Basic
import Mathlib.Data.List.Nodup
import Mathlib.Data.List.Pairwise

/-!
# Names and what they select

A registry file is read category by category, each taking its names from those that are left
(`takeNames_eq_ok_iff`), so that in a registry no two categories answer to one name
(`namesApart_of_ofFile`).

A request fails exactly if some name of it is unknown (`select_eq_error_iff`); otherwise it
selects the categories that answer to some name of it (`select_eq_ok_of_known`), whatever
the order of the names, how often they are given and which name of a category is given.

Taking names is one fold for each entry inside the fold over the entries, and both stop early.
They are opened here once each: `takeNames_eq_ok_iff` says when a row of names is taken and
what it leaves, `categoriesOf_cons_eq_ok_iff` is one step of the outer fold, and everything
else about registries goes through `ofFile_eq_ok_iff`.

A selection depends on a request only through which categories answer to it (`select_congr`),
and that is all that is needed for order, repetition and aliases.
-/

namespace LintRun

/-- **One thing after another** succeeds if both do. -/
theorem bind_eq_ok_iff {ε α β : Type} {x : Except ε α} {f : α → Except ε β} {b : β} :
    (x >>= f) = .ok b ↔ ∃ a, x = .ok a ∧ f a = .ok b := by
  cases x with
  | error e =>
    constructor
    · intro h
      cases h
    · rintro ⟨_, ⟨⟩, -⟩
  | ok a =>
    constructor
    · intro h
      exact ⟨a, rfl, h⟩
    · rintro ⟨_, ⟨⟩, h⟩
      exact h

namespace Registry

/-! ## 1. Taking names

Names that are taken are kept apart by construction, which is how two categories of a registry
come to share none. -/

/-- The names that are taken. -/
def Owners.names (owners : Owners) : List String := owners.map Prod.fst

/-- **Taking names** succeeds if they are different and none is taken. -/
theorem takeNames_eq_ok_iff {key : String} {names : List String} {owners owners' : Owners} :
    takeNames key names owners = .ok owners' ↔
      names.Nodup ∧ names.Disjoint owners.names ∧
        (names.map (·, key)).reverse ++ owners = owners' := by
  induction names generalizing owners with
  | nil => simp [takeNames]
  | cons name names ih =>
    rw [takeNames]
    cases hlookup : owners.lookup name with
    | some first =>
      have htaken : name ∈ owners.names := by
        by_contra hfree
        rw [lookup_eq_none_iff_not_mem.mpr hfree] at hlookup
        cases hlookup
      constructor
      · intro h
        cases h
      · rintro ⟨-, hfree, -⟩
        exact absurd htaken (hfree List.mem_cons_self)
    | none =>
      have hfree : name ∉ owners.names := lookup_eq_none_iff_not_mem.mp hlookup
      have howners : Owners.names ((name, key) :: owners) = name :: owners.names := rfl
      rw [ih, howners, List.disjoint_cons_right, List.disjoint_cons_left, List.nodup_cons,
        List.map_cons, List.reverse_cons, List.append_assoc]
      constructor
      · rintro ⟨hnodup, ⟨hname, hnames⟩, howners'⟩
        exact ⟨⟨hname, hnodup⟩, ⟨hfree, hnames⟩, howners'⟩
      · rintro ⟨⟨hname, hnodup⟩, ⟨-, hnames⟩, howners'⟩
        exact ⟨hnodup, ⟨hname, hnames⟩, howners'⟩

/-- What was taken before stays taken. -/
theorem names_of_takeNames {key : String} {names : List String} {owners owners' : Owners}
    (h : takeNames key names owners = .ok owners') (n : String) :
    n ∈ owners'.names ↔ n ∈ names ∨ n ∈ owners.names := by
  obtain ⟨-, -, rfl⟩ := takeNames_eq_ok_iff.mp h
  simp [Owners.names]

/-- A category goes by the names of its entry, and its paths are those of the entry read from
the root. -/
theorem fields_of_category {root : Path} {e : CategoryEntry} {c : Category}
    (h : category root e = .ok c) :
    c.names = e.names ∧ (c.roots = e.roots.map fun text => root.resolve (.ofString text)) ∧
      c.ignoreRoots = e.ignoreRoots.map fun text => root.resolve (.ofString text) := by
  unfold category Category.ofEntry at h
  cases hfault : e.fault? with
  | some f =>
    rw [hfault] at h
    cases h
  | none =>
    rw [hfault] at h
    cases hnoise : Noise.ofTexts e.noise with
    | error fault =>
      rw [hnoise] at h
      cases h
    | ok noise =>
      rw [hnoise] at h
      cases h
      exact ⟨rfl, rfl, rfl⟩

/-- **One entry**: its names are taken, then it makes a category, then the others follow. -/
theorem categoriesOf_cons_eq_ok_iff {root : Path} {e : CategoryEntry} {es : List CategoryEntry}
    {owners : Owners} {cs : List Category} :
    categoriesOf root (e :: es) owners = .ok cs ↔
      ∃ owners', takeNames e.key e.names owners = .ok owners' ∧
        ∃ c, category root e = .ok c ∧
          ∃ cs', categoriesOf root es owners' = .ok cs' ∧ c :: cs' = cs := by
  rw [categoriesOf]
  simp only [bind_eq_ok_iff, pure, Except.pure, Except.ok.injEq]

/-- Every category comes from an entry. -/
theorem exists_entry {root : Path} {es : List CategoryEntry} {owners : Owners}
    {cs : List Category} (h : categoriesOf root es owners = .ok cs) {c : Category} (hc : c ∈ cs) :
    ∃ e ∈ es, category root e = .ok c := by
  induction es generalizing owners cs with
  | nil =>
    cases h
    exact absurd hc List.not_mem_nil
  | cons e es ih =>
    obtain ⟨owners', -, d, hd, cs', hrest, rfl⟩ := categoriesOf_cons_eq_ok_iff.mp h
    rcases List.mem_cons.mp hc with rfl | hc
    · exact ⟨e, List.mem_cons_self, hd⟩
    · obtain ⟨e', he', hcategory⟩ := ih hrest hc
      exact ⟨e', List.mem_cons_of_mem e he', hcategory⟩

/-- No two categories answer to one name. -/
def NamesApart (r : Registry) : Prop :=
  r.categories.Pairwise fun c d => c.names.Disjoint d.names

/-- The names of categories are apart from each other and from those taken before. -/
theorem namesApart_categoriesOf {root : Path} {es : List CategoryEntry} {owners : Owners}
    {cs : List Category} (h : categoriesOf root es owners = .ok cs) :
    cs.Pairwise (fun c d => c.names.Disjoint d.names) ∧
      ∀ c ∈ cs, c.names.Disjoint owners.names := by
  induction es generalizing owners cs with
  | nil =>
    cases h
    exact ⟨.nil, fun c hc => absurd hc List.not_mem_nil⟩
  | cons e es ih =>
    obtain ⟨owners', htake, c, hc, cs', hrest, rfl⟩ := categoriesOf_cons_eq_ok_iff.mp h
    obtain ⟨hapart, htaken⟩ := ih hrest
    obtain ⟨-, hfree, -⟩ := takeNames_eq_ok_iff.mp htake
    have howned := names_of_takeNames htake
    rw [← (fields_of_category hc).1] at hfree howned
    refine ⟨List.pairwise_cons.mpr ⟨fun d hd n hn hnd => ?_, hapart⟩, fun d hd => ?_⟩
    · exact htaken d hd hnd ((howned n).mpr (.inl hn))
    · rcases List.mem_cons.mp hd with rfl | hd
      · exact hfree
      · exact fun n hn hno => htaken d hd hn ((howned n).mpr (.inr hno))

/-- What a registry file comes to. -/
theorem ofFile_eq_ok_iff {sourceRoot : Path} {file : RegistryFile} {r : Registry} :
    ofFile sourceRoot file = .ok r ↔
      categoriesOf sourceRoot.normalize file.categories [] = .ok r.categories ∧
        r.sourceRoot = sourceRoot.normalize ∧
        r.blacklist = .resolveAll sourceRoot.normalize (file.blacklist.map Path.ofString) ∧
        r.vcs = file.vcs.fillIn sourceRoot.normalize.display := by
  rw [ofFile]
  simp only [bind_eq_ok_iff, pure, Except.pure, Except.ok.injEq]
  constructor
  · rintro ⟨cs, hcs, rfl⟩
    exact ⟨hcs, rfl, rfl, rfl⟩
  · obtain ⟨root, cs, blacklist, vcs⟩ := r
    rintro ⟨hcs, rfl, rfl, rfl⟩
    exact ⟨cs, hcs, rfl⟩

/-- **No two categories of a registry share a name.** -/
theorem namesApart_of_ofFile {sourceRoot : Path} {file : RegistryFile} {r : Registry}
    (h : ofFile sourceRoot file = .ok r) : r.NamesApart :=
  (namesApart_categoriesOf (ofFile_eq_ok_iff.mp h).1).1

variable {r : Registry}

/-- **A name has one category** at most. -/
theorem NamesApart.eq_of_mem_names (h : r.NamesApart) {c d : Category} {n : String}
    (hc : c ∈ r.categories) (hd : d ∈ r.categories) (hnc : n ∈ c.names) (hnd : n ∈ d.names) :
    c = d := by
  have hall : r.categories.Pairwise fun c d => n ∈ c.names → n ∈ d.names → c = d :=
    h.imp fun hdisjoint hnc hnd => absurd hnd (hdisjoint hnc)
  have : Std.Symm fun c d : Category => n ∈ c.names → n ∈ d.names → c = d :=
    ⟨fun _ _ hcd hnd hnc => (hcd hnc hnd).symm⟩
  exact hall.forall_of_forall (fun _ _ _ _ => rfl) hc hd hnc hnd

/-! ## 2. Selecting

The order of the request plays a part only in which unknown name is reported. -/

variable {names names' : List String}

/-- A name is unknown if no category has it. -/
theorem get?_eq_none_iff {n : String} : r.get? n = none ↔ ∀ c ∈ r.categories, n ∉ c.names := by
  simp only [get?, List.find?_eq_none, List.contains_eq_mem, decide_eq_true_eq]

/-- **Known names select** the categories that have one of them, in the order of the registry.
-/
theorem select_eq_ok_of_known (hnames : names ≠ []) (hknown : ∀ n ∈ names, r.get? n ≠ none) :
    r.select names = .ok (r.categories.filter fun c => c.names.any names.contains) := by
  have hall : names.find? (fun n => (r.get? n).isNone) = none := by
    rw [List.find?_eq_none]
    intro n hn
    rw [Option.isNone_iff_eq_none]
    exact hknown n hn
  rw [select, if_neg (by simpa using hnames), hall]

/-- **A selection fails** exactly if a name is unknown. -/
theorem select_eq_error_iff :
    (∃ e, r.select names = .error e) ↔ ∃ n ∈ names, r.get? n = none := by
  constructor
  · rintro ⟨e, he⟩
    by_contra hknown
    push Not at hknown
    by_cases hnames : names = []
    · rw [hnames] at he
      cases he
    · rw [select_eq_ok_of_known hnames hknown] at he
      cases he
  · rintro ⟨n, hn, hunknown⟩
    rw [select, if_neg (by simpa using List.ne_nil_of_mem hn)]
    cases hfind : names.find? fun n => (r.get? n).isNone with
    | some m => exact ⟨_, rfl⟩
    | none =>
      have hknown := List.find?_eq_none.mp hfind n hn
      rw [hunknown] at hknown
      exact absurd rfl hknown

/-- Whether a category answers to a request. -/
theorem answers_iff {c : Category} :
    c.names.any names.contains = true ↔ ∃ n ∈ names, n ∈ c.names := by
  simp only [List.any_eq_true, List.contains_eq_mem, decide_eq_true_eq]
  exact exists_congr fun n => and_comm

/-- **Only the categories that are meant matter**: two requests of known names to which the
same categories answer select the same. -/
theorem select_congr (hnames : names ≠ []) (hnames' : names' ≠ [])
    (hknown : ∀ n ∈ names, r.get? n ≠ none) (hknown' : ∀ n ∈ names', r.get? n ≠ none)
    (h : ∀ c ∈ r.categories, (∃ n ∈ names', n ∈ c.names) ↔ ∃ n ∈ names, n ∈ c.names) :
    r.select names' = r.select names := by
  rw [select_eq_ok_of_known hnames hknown, select_eq_ok_of_known hnames' hknown']
  refine congrArg _ (List.filter_congr fun c hc => ?_)
  rw [Bool.eq_iff_iff, answers_iff, answers_iff, h c hc]

/-- Order and repetition of names do not matter. -/
theorem select_of_same_names (hnames : names ≠ []) (hknown : ∀ n ∈ names, r.get? n ≠ none)
    (h : ∀ n, n ∈ names' ↔ n ∈ names) : r.select names' = r.select names := by
  obtain ⟨n, hn⟩ := List.exists_mem_of_ne_nil names hnames
  refine select_congr hnames (List.ne_nil_of_mem ((h n).mpr hn)) hknown
    (fun n hn => hknown n ((h n).mp hn)) fun c _ => ?_
  exact exists_congr fun n => and_congr_left fun _ => h n

/-- **The same names in another order** select the same, or fail as well. -/
theorem select_of_perm (h : names'.Perm names) :
    (∃ selected, r.select names = .ok selected ∧ r.select names' = .ok selected) ∨
      ∃ e e', r.select names = .error e ∧ r.select names' = .error e' := by
  cases hselect : r.select names with
  | ok selected =>
    have hknown : ∀ n ∈ names, r.get? n ≠ none := fun n hn hunknown => by
      obtain ⟨e, he⟩ := select_eq_error_iff.mpr ⟨n, hn, hunknown⟩
      cases hselect.symm.trans he
    refine .inl ⟨selected, rfl, ?_⟩
    by_cases hnames : names = []
    · subst hnames
      rwa [List.perm_nil.mp h]
    · rwa [select_of_same_names hnames hknown fun n => h.mem_iff]
  | error e =>
    obtain ⟨n, hn, hunknown⟩ := select_eq_error_iff.mp ⟨e, hselect⟩
    obtain ⟨e', he'⟩ := select_eq_error_iff.mpr ⟨n, h.mem_iff.mpr hn, hunknown⟩
    exact .inr ⟨e, e', rfl, he'⟩

/-- **Any name of a category will do** in place of another. -/
theorem select_of_other_name (hapart : r.NamesApart) {before after : List String} {c : Category}
    {m n : String} (hc : c ∈ r.categories) (hm : m ∈ c.names) (hn : n ∈ c.names)
    (hknown : ∀ n ∈ before ++ m :: after, r.get? n ≠ none) :
    r.select (before ++ n :: after) = r.select (before ++ m :: after) := by
  have hanswers (l d) (hd : d ∈ r.categories) (hl : l ∈ c.names) : l ∈ d.names ↔ d = c :=
    ⟨fun hld => hapart.eq_of_mem_names hd hc hld hl, fun he => he ▸ hl⟩
  refine select_congr (by simp) (by simp) hknown (fun l hl => ?_) fun d hd => ?_
  · rcases List.mem_append.mp hl with hl | hl
    · exact hknown l (List.mem_append_left _ hl)
    · rcases List.mem_cons.mp hl with rfl | hl
      · exact fun hnone => get?_eq_none_iff.mp hnone c hc hn
      · exact hknown l (List.mem_append_right _ (List.mem_cons_of_mem _ hl))
  · simp only [List.mem_append, List.mem_cons, or_and_right, exists_or, exists_eq_left,
      hanswers n d hd hn, hanswers m d hd hm]

end Registry

end LintRun
