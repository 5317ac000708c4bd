import LintRun.Proofs.Changed.Listing
import LintRun.Proofs.Path.Resolve
import LintRun.Proofs.Registry.Selection
import Mathlib.Data.List.Forall2

/-!
# How the paths of a registry file are spelled

A path counts by its normal form wherever it is written: a file with other spellings makes the
same registry, or fails in the same way (`ofFile_congr`), and a listing with other spellings
names the same files (`changedPaths_congr`).

All paths of a registry in an absolute source root are grounded (`isGrounded_of_ofFile`), and
so is what a listing names in it (`isGrounded_of_mem_changedPaths`).

A path of a file is used in one way only, read from the source root and normalized.  So it is
enough that reading from a directory depends on a path through its normal form
(`map_resolve_congr`); the rest follows what reading a file does, entry by entry.  A listing is
used in the same way, line by line.  What comes out is equal, not only alike: equal registries
and equal errors.
-/

namespace LintRun

/-! ## 1. Other spellings

Respelling replaces paths by others with the same normal forms, one by one, and leaves
everything else alone; an error names keys and patterns, and no paths. -/

/-- The normal forms of the paths that some texts spell. -/
def normalForms (texts : List String) : List Path :=
  texts.map fun text => (Path.ofString text).normalize

/-- **Texts with the same normal forms** come to the same paths, read from any directory. -/
theorem map_resolve_congr {texts texts' : List String}
    (h : normalForms texts' = normalForms texts) (root : Path) :
    (texts'.map fun text => root.resolve (.ofString text)) =
      texts.map fun text => root.resolve (.ofString text) := by
  have hform (text : String) :
      root.resolve (.ofString text) = root.resolve (Path.ofString text).normalize :=
    Path.resolve_congr rfl (Path.normalize_normalize _).symm
  have hforms (texts : List String) : (texts.map fun text => root.resolve (.ofString text)) =
      (normalForms texts).map root.resolve := by
    simp only [normalForms, List.map_map, Function.comp_def, ← hform]
  rw [hforms, hforms, h]

/-- Sets of paths count by normal forms as well. -/
theorem resolveAll_congr {texts texts' : List String} (h : normalForms texts' = normalForms texts)
    (root : Path) : PathSet.resolveAll root (texts'.map Path.ofString) =
      PathSet.resolveAll root (texts.map Path.ofString) := by
  simp only [PathSet.resolveAll, List.map_map, Function.comp_def, map_resolve_congr h root]

theorem isEmpty_congr {texts texts' : List String} (h : normalForms texts' = normalForms texts) :
    texts'.isEmpty = texts.isEmpty := by
  have hforms := congrArg List.isEmpty h
  rwa [normalForms, normalForms, List.isEmpty_map, List.isEmpty_map] at hforms

/-- An entry with roots and ignore roots spelled in another way. -/
structure CategoryEntry.Respells (e' e : CategoryEntry) : Prop where
  roots : normalForms e'.roots = normalForms e.roots
  ignoreRoots : normalForms e'.ignoreRoots = normalForms e.ignoreRoots
  others : e' = { e with roots := e'.roots, ignoreRoots := e'.ignoreRoots }

/-- A registry file with paths spelled in another way. -/
structure RegistryFile.Respells (file' file : RegistryFile) : Prop where
  blacklist : normalForms file'.blacklist = normalForms file.blacklist
  vcs : file'.vcs = file.vcs
  categories : List.Forall₂ CategoryEntry.Respells file'.categories file.categories

namespace Registry

/-- **An entry** counts by the normal forms of its roots and ignore roots. -/
theorem category_congr {e e' : CategoryEntry} (h : e'.Respells e) (root : Path) :
    category root e' = category root e := by
  obtain ⟨hroots, hignore, hothers⟩ := h
  have hfault : e'.fault? = e.fault? := by
    rw [CategoryEntry.fault?, isEmpty_congr hroots, hothers]
    rfl
  unfold category Category.ofEntry
  rw [hfault, map_resolve_congr hroots, map_resolve_congr hignore, hothers]

/-- By induction on the entries; the owners of names are the same, since names are no paths. -/
theorem categoriesOf_congr {es es' : List CategoryEntry}
    (h : List.Forall₂ CategoryEntry.Respells es' es) (root : Path) (owners : Owners) :
    categoriesOf root es' owners = categoriesOf root es owners := by
  induction h generalizing owners with
  | nil => rfl
  | cons hentry _ ih =>
    have hkey := congrArg CategoryEntry.key hentry.others
    have hnames := congrArg CategoryEntry.names hentry.others
    rw [categoriesOf, categoriesOf, hkey, hnames, category_congr hentry]
    simp only [ih]
    rfl

/-- **A registry file counts by the normal forms of its paths**, and so does its source root. -/
theorem ofFile_congr {sourceRoot sourceRoot' : Path} {file file' : RegistryFile}
    (hroot : sourceRoot'.normalize = sourceRoot.normalize) (h : file'.Respells file) :
    ofFile sourceRoot' file' = ofFile sourceRoot file := by
  simp only [ofFile, hroot, categoriesOf_congr h.categories, h.vcs, resolveAll_congr h.blacklist]

end Registry

/-- **A listing counts by the normal forms of its lines.** -/
theorem changedPaths_congr {listing listing' : String}
    (h : normalForms (textLines listing') = normalForms (textLines listing)) (root : Path) :
    changedPaths root listing' = changedPaths root listing :=
  resolveAll_congr h root

/-! ## 2. Grounded paths

A path is grounded if it is absolute and in normal form.  Such paths are told apart by their
bytes. -/

/-- The paths of a registry are grounded. -/
structure Registry.IsGrounded (r : Registry) : Prop where
  sourceRoot : r.sourceRoot.IsGrounded
  roots : ∀ c ∈ r.categories, ∀ p ∈ c.roots, p.IsGrounded
  ignoreRoots : ∀ c ∈ r.categories, ∀ p ∈ c.ignoreRoots, p.IsGrounded
  blacklist : ∀ p ∈ r.blacklist, p.IsGrounded

/-- **A registry in an absolute source root** has no path that is not grounded. -/
theorem Registry.isGrounded_of_ofFile {sourceRoot : Path} {file : RegistryFile} {r : Registry}
    (habs : sourceRoot.isAbsolute = true) (h : Registry.ofFile sourceRoot file = .ok r) :
    r.IsGrounded := by
  obtain ⟨hcategories, hroot, hblacklist, -⟩ := Registry.ofFile_eq_ok_iff.mp h
  have hnormal : sourceRoot.normalize.isAbsolute = true :=
    (Path.isAbsolute_normalize sourceRoot).trans habs
  constructor
  case sourceRoot =>
    rw [hroot]
    exact Path.isGrounded_normalize habs
  case roots =>
    intro c hc p hp
    obtain ⟨e, -, hentry⟩ := Registry.exists_entry hcategories hc
    rw [(Registry.fields_of_category hentry).2.1] at hp
    obtain ⟨text, -, rfl⟩ := List.mem_map.mp hp
    exact Path.isGrounded_resolve hnormal _
  case ignoreRoots =>
    intro c hc p hp
    obtain ⟨e, -, hentry⟩ := Registry.exists_entry hcategories hc
    rw [(Registry.fields_of_category hentry).2.2] at hp
    obtain ⟨text, -, rfl⟩ := List.mem_map.mp hp
    exact Path.isGrounded_resolve hnormal _
  case blacklist =>
    intro p hp
    rw [hblacklist, PathSet.mem_resolveAll] at hp
    obtain ⟨text, -, rfl⟩ := hp
    exact Path.isGrounded_resolve hnormal _

theorem isGrounded_of_mem_changedPaths {root p : Path} (hroot : root.isAbsolute = true)
    {listing : String} (h : p ∈ changedPaths root listing) : p.IsGrounded := by
  obtain ⟨line, -, rfl⟩ := mem_changedPaths.mp h
  exact Path.isGrounded_resolve hroot _

end LintRun
