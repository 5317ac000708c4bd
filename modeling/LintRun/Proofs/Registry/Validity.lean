import LintRun.Registry.Basic
import Mathlib.Data.List.Forall2
import Mathlib.Data.List.TakeWhile

/-!
# Which entries make a category

An entry makes a category exactly if it is valid (`CategoryEntry.IsValid`), which says nothing
of checks or their order.  Otherwise it fails with the first of its faults in the order in which
they are looked for, or with the first pattern that is not well written
(`CategoryEntry.Fails`).

The checks are a chain of tests that ends at the first one that fails, and compiling the
patterns stops at the first that is not well written.  The order is in the two inductive
relations `HasFault` and `Fails`, where a fault has as its conditions that the earlier ones are
absent; validity has no order in it.  Each of the two readings of the program is proved once by
going through its branches (`fault?_spec`, `category_spec`), with a statement that has a case
for each way to end.  The equivalences follow from these by cases and without looking at the
program again: the ways to end exclude each other.
-/

namespace LintRun

/-! ## 1. Valid entries

What is asked of an entry is said without the functions that test it: a text has something in
it that can be seen, an extension has more in it than dots. -/

/-- A text with something to see in it. -/
def HasInk (text : String) : Prop := ∃ ch ∈ text.toList, isBlank ch = false

/-- A text that is not only dots. -/
def IsMoreThanDots (text : String) : Prop := ∃ ch ∈ text.toList, ch ≠ '.'

/-- A text that writes a pattern. -/
def WritesPattern (text : String) : Prop := ∃ p, Pattern.parse text = .ok p

/-- A text is blank if there is nothing to see in it. -/
theorem isBlankText_iff {text : String} : isBlankText text = true ↔ ¬HasInk text := by
  rw [isBlankText, List.all_eq_true, HasInk]
  push Not
  simp only [ne_eq, Bool.not_eq_false]

theorem HasInk.not_isBlankText {text : String} (h : HasInk text) : ¬isBlankText text = true :=
  fun hblank => isBlankText_iff.mp hblank h

/-- The leading dots of an extension are dropped, so it is one if something is left. -/
theorem isExtension_iff {text : String} : isExtension text = true ↔ IsMoreThanDots text := by
  have hempty : bareExtension text = "" ↔ text.toList.dropWhile (· == '.') = [] := by
    rw [bareExtension, ← String.toList_inj, String.toList_ofList, String.toList_empty]
  rw [isExtension, bne_iff_ne, Ne, hempty, List.dropWhile_eq_nil_iff]
  simp only [IsMoreThanDots, beq_iff_eq, not_forall, exists_prop]

namespace CategoryEntry

/-- An entry without faults, whatever its patterns. -/
structure IsUsable (e : CategoryEntry) : Prop where
  key : HasInk e.key
  roots : e.roots ≠ []
  extensions : ∃ ext ∈ e.extensions, IsMoreThanDots ext
  program : HasInk e.tool.program

/-- **A valid entry**, but for its names. -/
structure IsValid (e : CategoryEntry) : Prop extends e.IsUsable where
  noise : ∀ text ∈ e.noise, WritesPattern text

/-- **The fault of an entry**: the first that it has, in the order in which they are looked
for. -/
inductive HasFault (e : CategoryEntry) : EntryFault → Prop
  | blankKey : ¬HasInk e.key → HasFault e .blankKey
  | noRoots : HasInk e.key → e.roots = [] → HasFault e .noRoots
  | noExtensions : HasInk e.key → e.roots ≠ [] → (∀ ext ∈ e.extensions, ¬IsMoreThanDots ext) →
      HasFault e .noExtensions
  | blankProgram : HasInk e.key → e.roots ≠ [] → (∃ ext ∈ e.extensions, IsMoreThanDots ext) →
      ¬HasInk e.tool.program → HasFault e .blankProgram

variable {e : CategoryEntry}

theorem any_isExtension_iff :
    e.extensions.any isExtension = true ↔ ∃ ext ∈ e.extensions, IsMoreThanDots ext := by
  simp only [List.any_eq_true, isExtension_iff]

/-- **The checks of an entry**, one after another. -/
theorem fault?_spec (e : CategoryEntry) :
    match e.fault? with
    | some f => e.HasFault f
    | none => e.IsUsable := by
  unfold fault?
  by_cases hkey : isBlankText e.key = true
  · rw [if_pos hkey]
    exact .blankKey (isBlankText_iff.mp hkey)
  rw [if_neg hkey]
  rw [isBlankText_iff, not_not] at hkey
  by_cases hroots : e.roots.isEmpty = true
  · rw [if_pos hroots]
    exact .noRoots hkey (List.isEmpty_iff.mp hroots)
  rw [if_neg hroots]
  rw [List.isEmpty_iff] at hroots
  by_cases hany : e.extensions.any isExtension = true
  · rw [hany, Bool.not_true, if_neg Bool.false_ne_true]
    rw [any_isExtension_iff] at hany
    by_cases hprogram : isBlankText e.tool.program = true
    · rw [if_pos hprogram]
      exact .blankProgram hkey hroots hany (isBlankText_iff.mp hprogram)
    · rw [if_neg hprogram]
      rw [isBlankText_iff, not_not] at hprogram
      exact ⟨hkey, hroots, hany, hprogram⟩
  · rw [Bool.eq_false_iff.mpr hany, Bool.not_false, if_pos rfl]
    rw [any_isExtension_iff] at hany
    exact .noExtensions hkey hroots fun ext hext hmore => hany ⟨ext, hext, hmore⟩

/-- No fault is found where there is none. -/
theorem IsUsable.fault?_eq (h : e.IsUsable) : e.fault? = none := by
  rw [fault?, if_neg h.key.not_isBlankText, if_neg (mt List.isEmpty_iff.mp h.roots),
    any_isExtension_iff.mpr h.extensions, Bool.not_true, if_neg Bool.false_ne_true,
    if_neg h.program.not_isBlankText]

/-- **The fault that is found** is the fault that there is, since there are no two. -/
theorem HasFault.fault?_eq {f : EntryFault} (h : e.HasFault f) : e.fault? = some f := by
  unfold fault?
  cases h with
  | blankKey hkey => rw [if_pos (isBlankText_iff.mpr hkey)]
  | noRoots hkey hroots =>
    rw [if_neg hkey.not_isBlankText, hroots]
    rfl
  | noExtensions hkey hroots hnone =>
    have hany : e.extensions.any isExtension = false := by
      rw [Bool.eq_false_iff, Ne, any_isExtension_iff]
      rintro ⟨ext, hext, hmore⟩
      exact hnone ext hext hmore
    rw [if_neg hkey.not_isBlankText, if_neg (mt List.isEmpty_iff.mp hroots), hany]
    rfl
  | blankProgram hkey hroots hany hprogram =>
    rw [if_neg hkey.not_isBlankText, if_neg (mt List.isEmpty_iff.mp hroots),
      any_isExtension_iff.mpr hany, Bool.not_true, if_neg Bool.false_ne_true,
      if_pos (isBlankText_iff.mpr hprogram)]

end CategoryEntry

/-! ## 2. Categories of entries

A category takes its fields from the entry one by one; which of its texts are templates and
which are paths is in `Category.IsReadFrom`. -/

namespace Noise

/-- **Patterns that are all well written** are the noise. -/
theorem ofTexts_eq_ok_iff {texts : List String} {n : Noise} :
    ofTexts texts = .ok n ↔
      List.Forall₂ (fun text p => Pattern.parse text = .ok p) texts n.patterns := by
  obtain ⟨patterns⟩ := n
  induction texts generalizing patterns with
  | nil =>
    rw [ofTexts, List.forall₂_nil_left_iff]
    constructor
    · intro h
      cases h
      rfl
    · rintro ⟨⟩
      rfl
  | cons text texts ih =>
    rw [ofTexts, List.forall₂_cons_left_iff]
    cases hparse : Pattern.parse text with
    | error fault =>
      refine iff_of_false nofun ?_
      rintro ⟨_, _, ⟨⟩, -⟩
    | ok p =>
      cases hrest : ofTexts texts with
      | error fault =>
        refine iff_of_false nofun ?_
        rintro ⟨_, patterns', -, hpatterns, -⟩
        cases hrest.symm.trans ((ih patterns').mpr hpatterns)
      | ok n =>
        constructor
        · intro h
          cases h
          exact ⟨p, n.patterns, rfl, (ih n.patterns).mp hrest, rfl⟩
        · rintro ⟨_, patterns', ⟨⟩, hpatterns, hcons⟩
          cases hrest.symm.trans ((ih patterns').mpr hpatterns)
          cases hcons
          rfl

/-- **The first text that writes no pattern** is the error. -/
theorem ofTexts_eq_error_iff {texts : List String} {text : String} {fault : Pattern.Fault} :
    ofTexts texts = .error (text, fault) ↔
      ∃ good rest, texts = good ++ text :: rest ∧ (∀ t ∈ good, WritesPattern t) ∧
        Pattern.parse text = .error fault := by
  induction texts with
  | nil =>
    refine iff_of_false nofun ?_
    rintro ⟨good, rest, hsplit, -⟩
    simp at hsplit
  | cons t texts ih =>
    rw [ofTexts]
    cases hparse : Pattern.parse t with
    | error fault' =>
      constructor
      · intro h
        cases h
        exact ⟨[], texts, rfl, nofun, hparse⟩
      · rintro ⟨good, rest, hsplit, hgood, hfault⟩
        cases good with
        | nil =>
          cases hsplit
          cases hparse.symm.trans hfault
          rfl
        | cons t' good =>
          cases hsplit
          obtain ⟨p, hp⟩ := hgood t List.mem_cons_self
          cases hparse.symm.trans hp
    | ok p =>
      have hmap : (ofTexts texts).map (fun n => (⟨p :: n.patterns⟩ : Noise)) =
          .error (text, fault) ↔ ofTexts texts = .error (text, fault) := by
        cases ofTexts texts with
        | error _ => exact Iff.rfl
        | ok _ => exact iff_of_false nofun nofun
      show (ofTexts texts).map _ = _ ↔ _
      rw [hmap, ih]
      constructor
      · rintro ⟨good, rest, rfl, hgood, hfault⟩
        refine ⟨t :: good, rest, rfl, fun t' ht' => ?_, hfault⟩
        rcases List.mem_cons.mp ht' with rfl | ht'
        · exact ⟨p, hparse⟩
        · exact hgood t' ht'
      · rintro ⟨good, rest, hsplit, hgood, hfault⟩
        cases good with
        | nil =>
          cases hsplit
          cases hparse.symm.trans hfault
        | cons t' good =>
          cases hsplit
          exact ⟨good, rest, rfl, fun t' ht' => hgood t' (List.mem_cons_of_mem _ ht'), hfault⟩

end Noise

/-- **A category read from an entry**: names and texts as they are written, paths from the
source root, patterns compiled and templates filled in. -/
structure Category.IsReadFrom (c : Category) (root : Path) (e : CategoryEntry) : Prop where
  key : c.key = e.key
  aliases : c.aliases = e.aliases
  description : c.description = e.description
  roots : c.roots = e.roots.map fun text => root.resolve (.ofString text)
  ignoreRoots : c.ignoreRoots = e.ignoreRoots.map fun text => root.resolve (.ofString text)
  extensions : c.suffixes.extensions = (e.extensions.filter isExtension).map bareExtension
  noise : List.Forall₂ (fun text p => Pattern.parse text = .ok p) e.noise c.noise.patterns
  mode : c.mode = e.mode
  tool : c.tool = e.tool.fillIn root.display
  fixer : c.fixer = e.fixer.map (·.fillIn root.display)

/-- **What is wrong with an entry by itself**: its fault, or the first pattern that is not well
written if it has no fault. -/
inductive CategoryEntry.Fails (e : CategoryEntry) : RegistryError → Prop
  | fault {f : EntryFault} : e.HasFault f → Fails e (.invalidCategory e.key f)
  | noise {good rest : List String} {text : String} {fault : Pattern.Fault} : e.IsUsable →
      e.noise = good ++ text :: rest → (∀ t ∈ good, WritesPattern t) →
      Pattern.parse text = .error fault → Fails e (.badPattern e.key text fault)

/-- A valid entry has nothing wrong with it. -/
theorem CategoryEntry.Fails.not_isValid {e : CategoryEntry} {err : RegistryError}
    (h : e.Fails err) : ¬e.IsValid := by
  intro hvalid
  cases h with
  | fault hfault => cases hfault.fault?_eq.symm.trans hvalid.toIsUsable.fault?_eq
  | @noise _ _ text _ _ hsplit _ hparse =>
    obtain ⟨p, hp⟩ := hvalid.noise text (hsplit ▸ List.mem_append_right _ List.mem_cons_self)
    cases hparse.symm.trans hp

namespace Registry

variable {root : Path} {e : CategoryEntry} {c : Category} {err : RegistryError}

/-- The three ways in which reading an entry ends. -/
theorem category_spec (root : Path) (e : CategoryEntry) :
    match category root e with
    | .ok c => e.IsValid ∧ c.IsReadFrom root e
    | .error err => e.Fails err := by
  unfold category Category.ofEntry
  have hspec := e.fault?_spec
  cases hfault : e.fault? with
  | some f =>
    rw [hfault] at hspec
    exact .fault hspec
  | none =>
    rw [hfault] at hspec
    cases hnoise : Noise.ofTexts e.noise with
    | error err =>
      obtain ⟨text, fault⟩ := err
      obtain ⟨good, rest, hsplit, hgood, hparse⟩ := Noise.ofTexts_eq_error_iff.mp hnoise
      exact .noise hspec hsplit hgood hparse
    | ok noise =>
      have hpatterns := Noise.ofTexts_eq_ok_iff.mp hnoise
      refine ⟨⟨hspec, fun text htext => ?_⟩, rfl, rfl, rfl, rfl, rfl, rfl, hpatterns, rfl, rfl, rfl⟩
      obtain ⟨k, hk, rfl⟩ := List.getElem_of_mem htext
      exact ⟨_, hpatterns.get hk (hpatterns.length_eq ▸ hk)⟩

/-- Reading an entry fails with what is wrong with it, if something is. -/
theorem category_eq_error_iff : category root e = .error err ↔ e.Fails err := by
  constructor
  · intro h
    have hspec := category_spec root e
    rwa [h] at hspec
  · intro h
    unfold category Category.ofEntry
    cases h with
    | fault hfault => rw [hfault.fault?_eq]
    | noise husable hsplit hgood hparse =>
      rw [husable.fault?_eq,
        Noise.ofTexts_eq_error_iff.mpr ⟨_, _, hsplit, hgood, hparse⟩]

/-- A category is made of every valid entry, and of no other. -/
theorem exists_category_iff : (∃ c, category root e = .ok c) ↔ e.IsValid := by
  constructor
  · rintro ⟨c, hc⟩
    have hspec := category_spec root e
    rw [hc] at hspec
    exact hspec.1
  · intro hvalid
    cases hcategory : category root e with
    | ok c => exact ⟨c, rfl⟩
    | error err => exact absurd hvalid (category_eq_error_iff.mp hcategory).not_isValid

end Registry

end LintRun
