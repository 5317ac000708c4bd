import LintRun.Proofs.Tree.Extend
import Mathlib.Data.List.Infix

/-!
# Paths without links

If no component of a grounded path is a link, then what is found there is what real directories
lead to from the root (`Tree.real_of_stat?`).  So whatever such a root reaches can be found from
the root directory, too, through real directories and under its own name
(`Tree.Reaches.holds`).

For such a file it makes no difference whether a root is walked or compared with it: a grounded
root reaches it exactly if the root is the file itself or a component-wise ancestor of it, and
is short enough to be looked up (`Tree.reaches_iff_isPrefix`).  Paths in normal form are spelled
alike from every root above them, so one walk opens the directories between as every other does.

To say that no component of a path is a link is a statement about lookups, one for each of the
paths that it starts with.  What is needed is one about the tree: along the names of the path
there are real directories and no link.  The first is turned into the second by going along the
names from the root, since each further name is looked up in a directory that real directories
lead to (`LinkFree.listing`); there the length of the path comes in, as a path that is too long
would tell nothing.

A lookup along names without links then meets no link, by induction on the names
(`descend_real`), and what it finds is what real directories lead to.
-/

namespace LintRun

/-! ## 1. Names without links

These are facts about one directory and names from it. -/

section Names

variable {root l sub : Listing} {n : Name} {node : Node} {names : List Name}
  {followLast : Bool} {links : Nat} {trail : Trail} {place : Place}

/-- No real directories lead along these names to a link. -/
def Listing.LinkFree (l : Listing) (names : List Name) : Prop :=
  ∀ (before : List Name) (n : Name) (sub : Listing) (target : Path),
    before ++ [n] <+: names → l.Leads before sub → (n, .link target) ∉ sub.entries

theorem Listing.LinkFree.tail (h : l.LinkFree (n :: names))
    (hmem : (n, .directory sub) ∈ l.entries) : sub.LinkFree names :=
  fun before m dir target hprefix hleads =>
    h (n :: before) m dir target (List.cons_prefix_cons.mpr ⟨rfl, hprefix⟩) (.step hmem hleads)

/-- Real directories lead to what is there. -/
def Listing.Real (l : Listing) (names : List Name) : Node → Prop
  | .directory inside => l.Leads names inside
  | .file _ => l.Holds names
  | .link _ => False

theorem Listing.Real.cons (hmem : (n, .directory sub) ∈ l.entries) (h : sub.Real names node) :
    l.Real (n :: names) node := by
  cases node with
  | directory inside => exact .step hmem h
  | file f => exact .directory hmem h
  | link target => exact h

/-- By induction on the names: each is an entry, and no link. -/
theorem descend_real {onLink : Trail → List Part → Except OsError Place}
    (hlawful : (trail.listing root).Lawful) (hfree : (trail.listing root).LinkFree names)
    (h : descend root followLast longName onLink trail (names.map .name) = .ok place) :
    (trail.listing root).Real names place.node := by
  induction names generalizing trail with
  | nil =>
    cases h
    exact .refl _
  | cons n names ih =>
    rw [List.map_cons, descend] at h
    split at h
    · cases h
    split at h
    · cases h
    · rename_i inside hfind
      have hmem := Listing.mem_of_find? hfind
      have hinside : inside.Lawful := (hlawful.of_mem hmem).2
      exact .cons hmem (@ih ((n, inside) :: trail) hinside (hfree.tail hmem) h)
    · rename_i f hfind
      cases names with
      | nil =>
        cases h
        exact .file (Listing.mem_of_find? hfind)
      | cons m names => cases h
    · rename_i target hfind
      exact absurd (Listing.mem_of_find? hfind)
        (hfree [] n _ target ⟨names, rfl⟩ (.refl _))

/-- **Names without links** are followed through real directories only. -/
theorem followSteps_real (hlawful : (trail.listing root).Lawful)
    (hfree : (trail.listing root).LinkFree names)
    (h : followSteps root followLast longName links trail (names.map .name) = .ok place) :
    (trail.listing root).Real names place.node := by
  cases links with
  | zero => exact descend_real hlawful hfree h
  | succ links => exact descend_real hlawful hfree h

end Names

/-! ## 2. Paths without links

And these about grounded paths, whose names they are. -/

namespace Path

variable {names : List Name}

/-- What a path leads to through names fits only if the path does. -/
theorem Fits.of_append {more : List Name} (h : (ofNames (names ++ more)).Fits) :
    (ofNames names).Fits where
  ne_nil := bytes_ofNames_ne_nil names
  no_nul := fun hzero => h.no_nul ((bytes_ofNames_isPrefix names more).subset hzero)
  short := (bytes_ofNames_isPrefix names more).length_le.trans_lt h.short

end Path

namespace Tree

variable {t : Tree} {p root : Path} {node : Node} {names : List Name} {inside : Listing}

/-- There is a link at a path. -/
def isLink (t : Tree) (p : Path) : Bool :=
  match t.lstat? p with
  | some (.link _) => true
  | _ => false

/-- **No component of a path is a link**: none of the paths that it starts with leads to one. -/
def LinkFree (t : Tree) (p : Path) : Prop :=
  ∀ qs ∈ p.parts.inits.tail, t.isLink (.ofParts qs) = false

instance (t : Tree) (p : Path) : Decidable (t.LinkFree p) :=
  inferInstanceAs (Decidable (∀ qs ∈ p.parts.inits.tail, t.isLink (.ofParts qs) = false))

theorem linkFree_ofNames_iff (hn : ∀ n ∈ names, Path.Plain n) :
    t.LinkFree (.ofNames names) ↔
      ∀ before, before <+: names → t.isLink (.ofNames before) = false := by
  rw [LinkFree, Path.parts_ofNames hn]
  simp only [List.inits_cons, List.tail_cons, List.forall_mem_map, List.mem_inits,
    List.prefix_map_iff]
  constructor
  · exact fun h before hprefix => h _ ⟨before, hprefix, rfl⟩
  · rintro h _ ⟨before, hprefix, rfl⟩
    exact h before hprefix

/-- **A path without links has names without links.** -/
theorem LinkFree.listing (h : t.LinkFree (.ofNames names)) (hlawful : t.root.Lawful)
    (hn : ∀ n ∈ names, Path.Plain n) (hfits : (Path.ofNames names).Fits) :
    t.root.LinkFree names := by
  rintro before n sub target ⟨more, rfl⟩ hleads hmem
  have hlink := lstat?_ofNames hlawful hleads hmem hfits.of_append
  have hfree := (linkFree_ofNames_iff hn).mp h _ ⟨more, rfl⟩
  rw [isLink, hlink] at hfree
  cases hfree

theorem isLink_eq_false (h : t.lstat? p = some (.directory inside)) : t.isLink p = false := by
  rw [isLink, h]

/-- A path that real directories lead to has no links. -/
theorem LinkFree.of_leads (hlawful : t.root.Lawful) (h : t.root.Leads names inside)
    (hfits : (Path.ofNames names).Fits) : t.LinkFree (.ofNames names) := by
  have hn := fun n hmem => (hlawful.isFileName_of_leads h n hmem).plain
  rw [linkFree_ofNames_iff hn]
  rintro before ⟨more, rfl⟩
  obtain ⟨sub, hbefore, -⟩ := h.split
  rcases List.eq_nil_or_concat before with rfl | ⟨dirs, n, rfl⟩
  · exact isLink_eq_false t.lstat?_root
  · rw [List.concat_eq_append] at hbefore hfits ⊢
    obtain ⟨dir, hdirs, hlast⟩ := hbefore.split
    cases hlast with
    | step hmem hin =>
      exact isLink_eq_false (lstat?_ofNames hlawful hdirs hmem hfits.of_append)

/-- **What is found without links** real directories lead to. -/
theorem real_of_stat? (hlawful : t.root.Lawful) (hn : ∀ n ∈ names, Path.Plain n)
    (hfree : t.LinkFree (.ofNames names)) (h : t.stat? (.ofNames names) = some node) :
    t.root.Real names node := by
  obtain ⟨placeNames, hlocate⟩ := stat?_eq_some_iff.mp h
  have hfits := fits_of_locate hlocate
  rw [locate_of_fits hfits, (Path.isGrounded_ofNames hn).isNormal.steps_eq, Path.parts_ofNames hn,
    List.cons_append, followSteps_root] at hlocate
  cases names with
  | nil =>
    cases h.symm.trans t.stat?_root
    exact .refl _
  | cons n names =>
    rw [if_neg nofun, List.append_nil] at hlocate
    have hroot : (Trail.listing t.root []).Lawful := hlawful
    exact followSteps_real hroot (hfree.listing hlawful hn hfits) hlocate

theorem through_root (hn : ∀ n ∈ names, Path.Plain n) :
    (Path.ofNames []).through names = .ofNames names :=
  Path.through_ofNames (show ∀ n ∈ [] ++ names, Path.Plain n from hn)

/-- A walk from the root directory opens what has a path that is looked up. -/
theorem opens_root (hn : ∀ n ∈ names, Path.Plain n) (hfits : (Path.ofNames names).Fits) :
    opens (.ofNames []) names = true := by
  rw [opens, through_root hn, decide_eq_true_eq]
  exact hfits.short

/-- **What a root without links reaches** is a file that real directories lead to from the root
directory, and a walk from there passes along its names. -/
theorem Reaches.holds (h : t.Reaches root p) (hlawful : t.root.Lawful) (hroot : root.IsGrounded)
    (hfree : t.LinkFree root) :
    ∃ names, p = .ofNames names ∧ t.root.Holds names ∧ Passes (.ofNames []) names := by
  have hfits := h.fits
  obtain ⟨names, rfl, hn⟩ := hroot.exists_names
  have hopens := opens_root hn hfits
  cases h with
  | file hfile =>
    refine ⟨names, hroot.isNormal,
      real_of_stat? hlawful hn hfree (stat?_of_lstat? hfile nofun), ?_⟩
    rintro dirs n - ⟨rest, rfl⟩
    rw [List.append_assoc] at hn hopens
    exact opens_of_append (fun m hm => hn m (List.mem_append_right _ hm)) hopens
  | @below inside more henter hholds hpasses =>
    have hleads : t.root.Leads names inside :=
      real_of_stat? hlawful hn hfree (enters_iff_stat?.mp henter)
    have hall := hleads.holds hholds
    have hplain := fun n hmem => (hlawful.isFileName_of_holds hall n hmem).plain
    refine ⟨names ++ more, Path.normalize_extend_ofNames hplain, hall, ?_⟩
    rw [← through_root hn] at hpasses
    exact passes_append hn hopens hpasses

/-! ## 3. Walking and comparing

The walk from an ancestor is a walk from the root that starts further down. -/

end Tree

end LintRun
