import LintRun.Proofs.Ascending
import LintRun.Proofs.Path.Normal
import LintRun.Tree.Walk

/-!
# What a walk reaches

A root reaches a regular file if names lead to it through real directories only; a root that
is a link is followed when it leads to a directory (`Tree.Reaches`).  This says which files
there are and nothing about how they are looked for.  Walking lists exactly these files, in
normal form (`mem_walk_iff`), and collecting over several roots loses none of them and takes
no other (`mem_collect_iff`).

The limit on paths is kept apart from the files.  `Listing.Holds` says which files lie below a
directory, along real directories, and `Tree.Passes` which directories on the way to one can be
opened; the walk looks at both at once, and `Listing.lists_iff` takes them apart again.  In its
recursion the walk tells from inside a directory what opens there, so the test is shifted by
one name at each level, and the two inductive relations are shifted with it.

A root is looked up by its own path before anything is opened, and so is not among the
directories that `Passes` asks about.
-/

namespace LintRun

namespace Listing

/-! ## 1. Files below a directory

The two relations are by the names on the way; the place of an entry among the others plays no
part. -/

/-- The entries of a directory with their names. -/
def entries : Listing → List (Name × Node)
  | .empty => []
  | .file n f rest => (n, .file f) :: rest.entries
  | .link n target rest => (n, .link target) :: rest.entries
  | .directory n inside rest => (n, .directory inside) :: rest.entries

/-- The names that lead from a directory through real directories to a regular file. -/
inductive Holds : Listing → List Name → Prop
  | file {l : Listing} {n : Name} {f : File} (h : (n, .file f) ∈ l.entries) : Holds l [n]
  | directory {l inside : Listing} {n : Name} {names : List Name}
      (h : (n, .directory inside) ∈ l.entries) (hin : Holds inside names) : Holds l (n :: names)

theorem Holds.ne_nil {l : Listing} {names : List Name} (h : l.Holds names) : names ≠ [] := by
  cases h with
  | file h => exact List.cons_ne_nil _ _
  | directory h hin => exact List.cons_ne_nil _ _

/-- The names that a walk lists: the same, but every directory on the way is opened.  What opens
is told from the directory that the walk is in. -/
inductive Lists : (List Name → Bool) → Listing → List Name → Prop
  | file {opens : List Name → Bool} {l : Listing} {n : Name} {f : File}
      (h : (n, .file f) ∈ l.entries) : Lists opens l [n]
  | directory {opens : List Name → Bool} {l inside : Listing} {n : Name} {names : List Name}
      (h : (n, .directory inside) ∈ l.entries) (hopens : opens [n] = true)
      (hin : Lists (fun more => opens (n :: more)) inside names) : Lists opens l (n :: names)

section Opening

variable {l l' inside : Listing} {n : Name} {names : List Name} {opens : List Name → Bool}

theorem Lists.mono (h : Lists opens l names) (hsub : l.entries ⊆ l'.entries) :
    Lists opens l' names := by
  cases h with
  | file h => exact .file (hsub h)
  | directory h hopens hin => exact .directory (hsub h) hopens hin

theorem mem_files_of_file {f : File} (h : (n, .file f) ∈ l.entries) : [n] ∈ l.files opens := by
  induction l with
  | empty => exact absurd h List.not_mem_nil
  | file m g rest ih =>
    rcases List.mem_cons.mp h with he | h
    · obtain ⟨rfl, -⟩ := Prod.mk.inj he
      exact List.mem_cons_self
    · exact List.mem_cons_of_mem _ (ih h)
  | link m target rest ih =>
    rcases List.mem_cons.mp h with he | h
    · exact absurd (Prod.mk.inj he).2 (by simp)
    · exact ih h
  | directory m inside rest _ ih =>
    rcases List.mem_cons.mp h with he | h
    · exact absurd (Prod.mk.inj he).2 (by simp)
    · exact List.mem_append_right _ (ih h)

/-- A file further down is listed if the directory is opened. -/
theorem mem_files_of_directory (h : (n, .directory inside) ∈ l.entries) (hopens : opens [n] = true)
    (hin : names ∈ inside.files fun more => opens (n :: more)) : n :: names ∈ l.files opens := by
  induction l with
  | empty => exact absurd h List.not_mem_nil
  | file m g rest ih =>
    rcases List.mem_cons.mp h with he | h
    · exact absurd (Prod.mk.inj he).2 (by simp)
    · exact List.mem_cons_of_mem _ (ih h)
  | link m target rest ih =>
    rcases List.mem_cons.mp h with he | h
    · exact absurd (Prod.mk.inj he).2 (by simp)
    · exact ih h
  | directory m other rest _ ih =>
    rcases List.mem_cons.mp h with he | h
    · obtain ⟨rfl, hnode⟩ := Prod.mk.inj he
      obtain rfl := Node.directory.inj hnode
      rw [files, if_pos hopens]
      exact List.mem_append_left _ (List.mem_map_of_mem hin)
    · exact List.mem_append_right _ (ih h)

/-- By induction on the listing, with the test generalized. -/
theorem lists_of_mem_files (h : names ∈ l.files opens) : l.Lists opens names := by
  induction l generalizing names opens with
  | empty => exact absurd h List.not_mem_nil
  | file n f rest ih =>
    rcases List.mem_cons.mp h with rfl | h
    · exact .file List.mem_cons_self
    · exact (ih h).mono (List.subset_cons_self _ _)
  | link n target rest ih => exact (ih h).mono (List.subset_cons_self _ _)
  | directory n inside rest ihin ih =>
    rcases List.mem_append.mp h with h | h
    · split at h
      · rename_i hopens
        obtain ⟨below, hbelow, rfl⟩ := List.mem_map.mp h
        exact .directory List.mem_cons_self hopens (ihin hbelow)
      · exact absurd h List.not_mem_nil
    · exact (ih h).mono (List.subset_cons_self _ _)

/-- **The files of a directory** are the regular files that real directories lead to, as far as
these are opened. -/
theorem mem_files_iff : names ∈ l.files opens ↔ l.Lists opens names := by
  constructor
  · exact lists_of_mem_files
  · intro h
    induction h with
    | file h => exact mem_files_of_file h
    | directory h hopens _ ih => exact mem_files_of_directory h hopens ih

/-- What opens is a matter of the names alone: which files there are, and which directories on
the way to a file open, are two questions. -/
theorem lists_iff : l.Lists opens names ↔
    l.Holds names ∧ ∀ dirs n, dirs ≠ [] → dirs ++ [n] <+: names → opens dirs = true := by
  constructor
  · intro h
    induction h with
    | file h =>
      refine ⟨.file h, fun dirs m hne hprefix => ?_⟩
      obtain ⟨d, dirs, rfl⟩ := List.exists_cons_of_ne_nil hne
      have hlength := hprefix.length_le
      simp at hlength
    | directory h hopens _ ih =>
      obtain ⟨hholds, hall⟩ := ih
      refine ⟨.directory h hholds, fun dirs m hne hprefix => ?_⟩
      obtain ⟨d, dirs, rfl⟩ := List.exists_cons_of_ne_nil hne
      obtain ⟨rfl, hrest⟩ := List.cons_prefix_cons.mp hprefix
      by_cases hlast : dirs = []
      · rw [hlast]
        exact hopens
      · exact hall dirs m hlast hrest
  · rintro ⟨hholds, hall⟩
    induction hholds generalizing opens with
    | file h => exact .file h
    | @directory l inside n names h hin ih =>
      obtain ⟨m, more, rfl⟩ := List.exists_cons_of_ne_nil hin.ne_nil
      refine .directory h (hall [n] m (List.cons_ne_nil _ _) ⟨more, rfl⟩) ?_
      exact ih fun dirs k _ hprefix => hall (n :: dirs) k (List.cons_ne_nil _ _)
        (List.cons_prefix_cons.mpr ⟨rfl, hprefix⟩)

end Opening

end Listing

namespace Tree

/-! ## 2. Files that a root reaches

What a root is depends on where its links lead, and that is all that is asked about links here.
-/

variable {t : Tree} {root p : Path} {inside : Listing}

/-- A root is a directory, or a link that leads to one. -/
def Enters (t : Tree) (root : Path) (inside : Listing) : Prop :=
  t.lstat? root = some (.directory inside) ∨
    (∃ target, t.lstat? root = some (.link target)) ∧ t.stat? root = some (.directory inside)

/-- **A walk passes along names** from a root: every directory below the root, on the way to the
last of them, has a path by which it can be opened. -/
def Passes (root : Path) (names : List Name) : Prop :=
  ∀ dirs n, dirs ≠ [] → dirs ++ [n] <+: names → opens root dirs = true

/-- A root is a regular file, or leads to one through real directories that are opened.  The file
is named by its normal form. -/
inductive Reaches (t : Tree) (root : Path) : Path → Prop
  | file {f : File} (h : t.lstat? root = some (.file f)) : Reaches t root root.normalize
  | below {inside : Listing} {names : List Name} (h : t.Enters root inside)
      (hin : inside.Holds names) (hpasses : Passes root names) :
      Reaches t root (root.extend names).normalize

theorem Reaches.isNormal (h : t.Reaches root p) : p.IsNormal := by
  cases h with
  | file => exact Path.isNormal_normalize _
  | below => exact Path.isNormal_normalize _

theorem entered?_eq_some_iff : t.entered? root = some inside ↔ t.Enters root inside := by
  unfold entered? Enters
  cases hl : t.lstat? root with
  | none => simp
  | some node =>
    cases node with
    | file f => simp
    | directory l => simp
    | link target =>
      simp only [Option.some.injEq, reduceCtorEq, false_or]
      split
      next l hs => simp [hs]
      next hs => simpa using hs inside

/-- The files of a root are those that it reaches, before any test. -/
theorem mem_filesFrom_iff : p ∈ t.filesFrom root ↔ t.Reaches root p := by
  unfold filesFrom
  split
  next f hl =>
    constructor
    · intro h
      rw [List.mem_singleton.mp h]
      exact .file hl
    · intro h
      cases h with
      | file => exact List.mem_singleton_self _
      | below h =>
        rw [Enters, hl] at h
        exact absurd h (by simp)
  next hl =>
    constructor
    · intro h
      split at h
      next inside hin =>
        obtain ⟨names, hnames, rfl⟩ := List.mem_map.mp h
        obtain ⟨hholds, hpasses⟩ := Listing.lists_iff.mp (Listing.mem_files_iff.mp hnames)
        exact .below (entered?_eq_some_iff.mp hin) hholds hpasses
      next => exact absurd h List.not_mem_nil
    · intro h
      cases h with
      | file h => exact absurd h (hl _)
      | below h hin hpasses =>
        rw [entered?_eq_some_iff.mpr h]
        exact List.mem_map_of_mem
          (Listing.mem_files_iff.mpr (Listing.lists_iff.mpr ⟨hin, hpasses⟩))

/-- **A walk lists what its root reaches.** -/
theorem mem_walk_iff {test : Path → Bool} :
    p ∈ t.walk test root ↔ t.Reaches root p ∧ test p = true := by
  rw [walk, List.mem_filter, mem_filesFrom_iff]

theorem isNormal_of_mem_walk {test : Path → Bool} (h : p ∈ t.walk test root) : p.IsNormal :=
  (mem_walk_iff.mp h).1.isNormal

/-- **Collecting** takes what some root reaches, and nothing is lost. -/
theorem mem_collect_iff {test : Path → Bool} {roots : List Path} :
    p ∈ t.collect test roots ↔ (∃ root ∈ roots, t.Reaches root p) ∧ test p = true := by
  have hapart : KeysTellApart Path.key (· ∈ roots.flatMap (t.walk test)) := by
    intro a b ha hb
    obtain ⟨ra, -, ha⟩ := List.mem_flatMap.mp ha
    obtain ⟨rb, -, hb⟩ := List.mem_flatMap.mp hb
    exact (isNormal_of_mem_walk ha).eq_of_key (isNormal_of_mem_walk hb)
  rw [collect, Ascending.mem_ofList hapart, List.mem_flatMap]
  simp only [mem_walk_iff]
  constructor
  · rintro ⟨root, hroot, hreach, htest⟩
    exact ⟨⟨root, hroot, hreach⟩, htest⟩
  · rintro ⟨⟨root, hroot, hreach⟩, htest⟩
    exact ⟨root, hroot, hreach, htest⟩

theorem isNormal_of_mem_collect {test : Path → Bool} {roots : List Path}
    (h : p ∈ t.collect test roots) : p.IsNormal := by
  obtain ⟨⟨_, -, hreach⟩, -⟩ := mem_collect_iff.mp h
  exact hreach.isNormal

end Tree

end LintRun
