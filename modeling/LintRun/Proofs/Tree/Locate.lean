import LintRun.Proofs.Lookup
import LintRun.Proofs.Path.Extend
import LintRun.Proofs.Tree.Reach

/-!
# What is found at a path

A tree is lawful if no directory has two entries of one name and all names are names of files
(`Listing.Lawful`).  In such a tree looking up a name finds the entry that there is, so names
that lead through real directories (`Listing.Leads`) are followed to their end, whatever stands
before and after them (`descend_leads`).

Where links come in two facts are enough: a lookup that does not follow a last link agrees with
one that does, or ends at a link (`followSteps_or_link`), and what is found in a lawful tree is
lawful (`lawful_followSteps`).

Paths that are too long, empty or not free of NUL are not looked up at all (`Path.Fits`).

A lookup is a recursion over the steps of a path inside a recursion over the links that may
still be followed, and a link puts its own steps in front of the rest.  As long as names lead
through real directories no link is met, and the outer recursion stands still; that is why the
lemmas about such names are stated for the inner one (`descend`), with what happens at a link
as a parameter, and hold for every number of links.  The trail remembers the directories that
were passed, for `..` to go back to; all that is needed of it is which directory it ends in.

`longName` and `pathLimit` are the two limits of the operating system.  The names of a lawful
tree are never too long, so only the length of the whole path can keep it from being looked up.
-/

namespace LintRun

/-! ## 1. Lawful trees

Trees as a file system can have them.  Being lawful can be decided, which the examples make use
of. -/

/-- **A name that a file can have**: it stands for itself between slashes, has no NUL in it and
is not too long. -/
structure IsFileName (n : Name) : Prop where
  plain : Path.Plain n
  no_nul : 0 ∉ n
  short : n.length ≤ nameLimit

theorem IsFileName.not_longName {n : Name} (h : IsFileName n) (trail : Trail) :
    ¬longName trail n = true := by
  rw [longName, decide_eq_true_eq]
  exact h.short.not_gt

instance (n : Name) : Decidable (Path.Plain n) :=
  decidable_of_iff (n ≠ [] ∧ n ≠ [Path.dot] ∧ n ≠ [Path.dot, Path.dot] ∧
    n.all (fun b => !Path.isSlash b) = true) (by simp [Path.Plain, Free])

instance (n : Name) : Decidable (IsFileName n) :=
  decidable_of_iff (Path.Plain n ∧ 0 ∉ n ∧ n.length ≤ nameLimit)
    ⟨fun ⟨hplain, hnul, hshort⟩ => ⟨hplain, hnul, hshort⟩,
      fun h => ⟨h.plain, h.no_nul, h.short⟩⟩

namespace Listing

/-- The names of the entries of a directory. -/
def names (l : Listing) : List Name := l.entries.map Prod.fst

/-- **A directory as there can be one**: no two entries have the same name, all names are names
of files, and the directories in it are of that kind. -/
def Lawful : Listing → Prop
  | .empty => True
  | .file n _ rest => IsFileName n ∧ n ∉ rest.names ∧ rest.Lawful
  | .link n _ rest => IsFileName n ∧ n ∉ rest.names ∧ rest.Lawful
  | .directory n inside rest => IsFileName n ∧ n ∉ rest.names ∧ rest.Lawful ∧ inside.Lawful

instance decidableLawful : (l : Listing) → Decidable l.Lawful
  | .empty => .isTrue trivial
  | .file _ _ rest =>
    have := decidableLawful rest
    inferInstanceAs (Decidable (_ ∧ _ ∧ rest.Lawful))
  | .link _ _ rest =>
    have := decidableLawful rest
    inferInstanceAs (Decidable (_ ∧ _ ∧ rest.Lawful))
  | .directory _ inside rest =>
    have := decidableLawful rest
    have := decidableLawful inside
    inferInstanceAs (Decidable (_ ∧ _ ∧ rest.Lawful ∧ inside.Lawful))

end Listing

/-- What can be at one place of a lawful tree. -/
def Node.Lawful : Node → Prop
  | .directory inside => inside.Lawful
  | _ => True

namespace Listing

variable {l inside sub : Listing} {n : Name} {node : Node} {xs ys : List Name}

/-- Looking up a name is looking it up among the entries. -/
theorem find?_eq_lookup (n : Name) (l : Listing) : l.find? n = l.entries.lookup n := by
  induction l with
  | empty => rfl
  | file m f rest ih => rw [entries, lookup_cons_eq_ite, ← ih, find?]
  | link m target rest ih => rw [entries, lookup_cons_eq_ite, ← ih, find?]
  | directory m inside rest _ ih => rw [entries, lookup_cons_eq_ite, ← ih, find?]

/-- No name stands twice in a lawful directory. -/
theorem Lawful.nodup (h : l.Lawful) : l.names.Nodup := by
  induction l with
  | empty => exact List.nodup_nil
  | file n f rest ih => exact List.nodup_cons.mpr ⟨h.2.1, ih h.2.2⟩
  | link n target rest ih => exact List.nodup_cons.mpr ⟨h.2.1, ih h.2.2⟩
  | directory n inside rest _ ih => exact List.nodup_cons.mpr ⟨h.2.1, ih h.2.2.1⟩

/-- **The entries of a lawful directory** are lawful and have names of files. -/
theorem Lawful.of_mem (h : l.Lawful) (hmem : (n, node) ∈ l.entries) :
    IsFileName n ∧ node.Lawful := by
  induction l with
  | empty => exact absurd hmem List.not_mem_nil
  | file m f rest ih =>
    rcases List.mem_cons.mp hmem with hhead | hmem
    · cases hhead
      exact ⟨h.1, trivial⟩
    · exact ih h.2.2 hmem
  | link m target rest ih =>
    rcases List.mem_cons.mp hmem with hhead | hmem
    · cases hhead
      exact ⟨h.1, trivial⟩
    · exact ih h.2.2 hmem
  | directory m inside rest _ ih =>
    rcases List.mem_cons.mp hmem with hhead | hmem
    · cases hhead
      exact ⟨h.1, h.2.2.2⟩
    · exact ih h.2.2.1 hmem

theorem mem_of_find? (h : l.find? n = some node) : (n, node) ∈ l.entries :=
  mem_of_lookup_eq (find?_eq_lookup n l ▸ h)

/-- **In a lawful directory** looking up a name finds the entry that has it. -/
theorem Lawful.find?_eq_some_iff (h : l.Lawful) :
    l.find? n = some node ↔ (n, node) ∈ l.entries := by
  rw [find?_eq_lookup]
  exact lookup_eq_some_iff h.nodup

/-- A name that is no directory has nothing inside, which is lawful. -/
theorem lawful_inside (h : l.Lawful) (n : Name) : (l.inside n).Lawful := by
  unfold Listing.inside
  split
  · rename_i inside hfind
    exact (h.of_mem (mem_of_find? hfind)).2
  · trivial

/-! ## 2. Real directories

A way through real directories can be cut and put together anywhere, and everything on it is
lawful in a lawful tree. -/

/-- Names that lead from a directory to another one through real directories. -/
inductive Leads : Listing → List Name → Listing → Prop
  | refl (l : Listing) : Leads l [] l
  | step {l inside sub : Listing} {n : Name} {names : List Name}
      (h : (n, .directory inside) ∈ l.entries) (hin : Leads inside names sub) :
      Leads l (n :: names) sub

theorem Leads.concat (h : l.Leads xs sub) (hmem : (n, .directory inside) ∈ sub.entries) :
    l.Leads (xs ++ [n]) inside := by
  induction h with
  | refl l => exact .step hmem (.refl inside)
  | step h _ ih => exact .step h (ih hmem)

/-- **What a directory holds further down** it holds. -/
theorem Leads.holds (h : l.Leads xs sub) (hsub : sub.Holds ys) : l.Holds (xs ++ ys) := by
  induction h with
  | refl l => exact hsub
  | step h _ ih => exact .directory h (ih hsub)

/-- The way to a directory can be cut in two anywhere. -/
theorem Leads.split (h : l.Leads (xs ++ ys) sub) : ∃ mid, l.Leads xs mid ∧ mid.Leads ys sub := by
  induction xs generalizing l with
  | nil => exact ⟨l, .refl l, h⟩
  | cons x xs ih =>
    cases h with
    | step hmem hin =>
      obtain ⟨mid, hfront, hback⟩ := ih hin
      exact ⟨mid, .step hmem hfront, hback⟩

/-- The way to a file can be cut in two before the file. -/
theorem Holds.split (h : l.Holds (xs ++ ys)) (hne : ys ≠ []) :
    ∃ sub, l.Leads xs sub ∧ sub.Holds ys := by
  induction xs generalizing l with
  | nil => exact ⟨l, .refl l, h⟩
  | cons x xs ih =>
    generalize hnames : x :: xs ++ ys = names at h
    cases h with
    | file h =>
      obtain ⟨-, hnil⟩ := List.cons.inj hnames
      exact absurd (List.append_eq_nil_iff.mp hnil).2 hne
    | directory h hin =>
      obtain ⟨rfl, rfl⟩ := List.cons.inj hnames
      obtain ⟨sub, hleads, hsub⟩ := ih hin
      exact ⟨sub, .step h hleads, hsub⟩

/-- A file is an entry of the directory that the names before the last lead to. -/
theorem Holds.exists_leads (h : l.Holds xs) :
    ∃ (sub : Listing) (before : List Name) (n : Name) (f : File),
      l.Leads before sub ∧ (n, .file f) ∈ sub.entries ∧ xs = before ++ [n] := by
  induction h with
  | @file l n f hmem => exact ⟨l, [], n, f, .refl l, hmem, rfl⟩
  | directory hmem _ ih =>
    obtain ⟨sub, before, n, f, hleads, hfile, rfl⟩ := ih
    exact ⟨sub, _ :: before, n, f, .step hmem hleads, hfile, rfl⟩

theorem Lawful.of_leads (h : l.Lawful) (hleads : l.Leads xs sub) : sub.Lawful := by
  induction hleads with
  | refl l => exact h
  | step hmem _ ih => exact ih (h.of_mem hmem).2

theorem Lawful.isFileName_of_leads (h : l.Lawful) (hleads : l.Leads xs sub) :
    ∀ n ∈ xs, IsFileName n := by
  induction hleads with
  | refl l => exact fun n hn => absurd hn List.not_mem_nil
  | step hmem _ ih =>
    obtain ⟨hname, hinside⟩ := h.of_mem hmem
    exact List.forall_mem_cons.mpr ⟨hname, ih hinside⟩

/-- The names that lead to an entry of a directory further down are names of files. -/
theorem Lawful.isFileName_of_entry (h : l.Lawful) (hleads : l.Leads xs sub)
    (hmem : (n, node) ∈ sub.entries) : ∀ m ∈ xs ++ [n], IsFileName m := by
  intro m hm
  rcases List.mem_append.mp hm with hm | hm
  · exact h.isFileName_of_leads hleads m hm
  · rw [List.mem_singleton.mp hm]
    exact ((h.of_leads hleads).of_mem hmem).1

theorem Lawful.isFileName_of_holds (h : l.Lawful) (hholds : l.Holds xs) :
    ∀ n ∈ xs, IsFileName n := by
  obtain ⟨sub, before, n, f, hleads, hmem, rfl⟩ := hholds.exists_leads
  exact h.isFileName_of_entry hleads hmem

end Listing

/-! ## 3. Following steps

In each lemma the steps behind those it is about are arbitrary. -/

section Following

variable {root sub : Listing} {followLast : Bool} {trail : Trail} {n : Name} {node : Node}
  {names : List Name} {steps : List Part} {place : Place}

/-- **Names that lead through real directories are followed**, whatever comes after them. -/
theorem descend_leads {onLink : Trail → List Part → Except OsError Place}
    (hlawful : (trail.listing root).Lawful) (h : (trail.listing root).Leads names sub) :
    ∃ trail' : Trail, trail'.listing root = sub ∧ ∀ steps,
      descend root followLast longName onLink trail (names.map .name ++ steps) =
        descend root followLast longName onLink trail' steps := by
  generalize hl : trail.listing root = l at hlawful h
  induction h generalizing trail with
  | refl l => exact ⟨trail, hl, fun _ => rfl⟩
  | @step l inside sub n names hmem _ ih =>
    obtain ⟨hname, hinside⟩ := hlawful.of_mem hmem
    obtain ⟨trail', hend, hsteps⟩ := @ih ((n, inside) :: trail) rfl hinside
    refine ⟨trail', hend, fun steps => ?_⟩
    rw [List.map_cons, List.cons_append, descend, if_neg (hname.not_longName _), hl,
      hlawful.find?_eq_some_iff.mpr hmem]
    exact hsteps steps

/-- A last name is looked up where the names before it led to. -/
theorem descend_last {onLink : Trail → List Part → Except OsError Place}
    (hlawful : (trail.listing root).Lawful) (h : (n, node) ∈ (trail.listing root).entries) :
    ∃ names, descend root false longName onLink trail [.name n] = .ok ⟨names, node⟩ := by
  have hname := (hlawful.of_mem h).1
  rw [descend, if_neg (hname.not_longName _), hlawful.find?_eq_some_iff.mpr h]
  cases node with
  | file f => exact ⟨_, rfl⟩
  | link target => exact ⟨_, rfl⟩
  | directory inside => exact ⟨_, rfl⟩

variable {links : Nat}

/-- The same with the links that may still be followed, of which none is used up. -/
theorem followSteps_leads (hlawful : (trail.listing root).Lawful)
    (h : (trail.listing root).Leads names sub) :
    ∃ trail' : Trail, trail'.listing root = sub ∧ ∀ steps,
      followSteps root followLast longName links trail (names.map .name ++ steps) =
        followSteps root followLast longName links trail' steps := by
  cases links with
  | zero => exact descend_leads hlawful h
  | succ links => exact descend_leads hlawful h

theorem followSteps_last (hlawful : (trail.listing root).Lawful)
    (h : (n, node) ∈ (trail.listing root).entries) :
    ∃ names, followSteps root false longName links trail [.name n] = .ok ⟨names, node⟩ := by
  cases links with
  | zero => exact descend_last hlawful h
  | succ links => exact descend_last hlawful h

/-- A last link makes the only difference between following it and not. -/
theorem descend_or_link {onLink onLink' : Trail → List Part → Except OsError Place}
    (hlink : ∀ trail steps, onLink trail steps = onLink' trail steps ∨
      ∃ names target, onLink trail steps = .ok ⟨names, .link target⟩)
    (trail : Trail) (steps : List Part) :
    descend root false longName onLink trail steps =
        descend root true longName onLink' trail steps ∨
      ∃ names target,
        descend root false longName onLink trail steps = .ok ⟨names, .link target⟩ := by
  induction steps generalizing trail with
  | nil => exact .inl rfl
  | cons q steps ih =>
    cases q with
    | root => exact ih []
    | here => exact ih trail
    | up => exact ih trail.tail
    | name n =>
      rw [descend, descend]
      split
      · exact .inl rfl
      split
      · exact .inl rfl
      · exact ih _
      · exact .inl rfl
      · rename_i target _
        cases steps with
        | nil => exact .inr ⟨_, target, rfl⟩
        | cons q steps =>
          simp only [List.isEmpty_cons, Bool.false_and, Bool.false_eq_true, if_false]
          split
          · exact .inl rfl
          · exact hlink _ _

/-- **Following a last link or not** comes to the same, or the lookup ends at a link. -/
theorem followSteps_or_link (links : Nat) (trail : Trail) (steps : List Part) :
    followSteps root false longName links trail steps =
        followSteps root true longName links trail steps ∨
      ∃ names target,
        followSteps root false longName links trail steps = .ok ⟨names, .link target⟩ := by
  induction links generalizing trail steps with
  | zero => exact descend_or_link (fun _ _ => .inl rfl) trail steps
  | succ links ih => exact descend_or_link ih trail steps

/-- The directories of a trail are lawful. -/
def Trail.Lawful (trail : Trail) : Prop := ∀ d ∈ trail, d.2.Lawful

theorem Trail.Lawful.listing (h : trail.Lawful) (hroot : root.Lawful) :
    (trail.listing root).Lawful := by
  cases trail with
  | nil => exact hroot
  | cons d trail => exact h d List.mem_cons_self

/-- **Lookups stay in the tree**: if links lead to what is lawful, so do steps. -/
theorem lawful_descend {onLink : Trail → List Part → Except OsError Place} (hroot : root.Lawful)
    (hlink : ∀ {trail : Trail} {steps place}, trail.Lawful → onLink trail steps = .ok place →
      place.node.Lawful)
    (htrail : trail.Lawful) (h : descend root followLast longName onLink trail steps = .ok place) :
    place.node.Lawful := by
  induction steps generalizing trail with
  | nil =>
    cases h
    exact htrail.listing hroot
  | cons q steps ih =>
    cases q with
    | root => exact @ih [] nofun h
    | here => exact ih htrail h
    | up => exact ih (fun d hd => htrail d (List.mem_of_mem_tail hd)) h
    | name n =>
      rw [descend] at h
      split at h
      · cases h
      split at h
      · cases h
      · rename_i inside hfind
        have hinside : inside.Lawful :=
          ((htrail.listing hroot).of_mem (Listing.mem_of_find? hfind)).2
        exact ih (List.forall_mem_cons.mpr ⟨hinside, htrail⟩) h
      · split at h
        · cases h
          trivial
        · cases h
      · split at h
        · cases h
          trivial
        split at h
        · cases h
        · exact hlink htrail h

/-- **What is found in a lawful tree** is lawful. -/
theorem lawful_followSteps (hroot : root.Lawful) (htrail : trail.Lawful)
    (h : followSteps root followLast longName links trail steps = .ok place) :
    place.node.Lawful := by
  induction links generalizing trail steps place with
  | zero => exact lawful_descend hroot (fun _ h => by cases h) htrail h
  | succ links ih => exact lawful_descend hroot (fun htrail h => ih htrail h) htrail h

end Following

/-! ## 4. Looking up a path

Two ways to look up a path, with a last link followed or not, share everything but the last
step. -/

/-- **A path that is looked up at all.** -/
structure Path.Fits (p : Path) : Prop where
  ne_nil : p.bytes ≠ []
  no_nul : 0 ∉ p.bytes
  short : p.bytes.length < pathLimit

namespace Tree

variable {t : Tree} {p : Path} {node : Node} {followLast : Bool} {place : Place}
  {inside : Listing}

/-- A path that fits is followed step by step. -/
theorem locate_of_fits (h : p.Fits) :
    t.locate followLast p = followSteps t.root followLast longName linkLimit t.trail p.steps := by
  have hempty : ¬p.bytes.isEmpty = true := by simpa using h.ne_nil
  have hnul : ¬p.bytes.contains 0 = true := by simpa using h.no_nul
  rw [locate, if_pos (by simp [h.short]), trace, if_neg hempty, if_neg hnul]

/-- Nothing is found at a path that does not fit. -/
theorem fits_of_locate (h : t.locate followLast p = .ok place) : p.Fits := by
  unfold locate trace at h
  split at h
  · rename_i hlimit
    split at h
    · cases h
    split at h
    · cases h
    · rename_i hempty hnul
      have hnul : 0 ∉ p.bytes := by simpa using hnul
      refine ⟨by simpa using hempty, hnul, ?_⟩
      simpa [hnul] using hlimit
  · cases h

theorem node_eq_some_iff {found : Except OsError Place} :
    found.toOption.map (·.node) = some node ↔ ∃ names, found = .ok ⟨names, node⟩ := by
  cases found with
  | error e => simp [Except.toOption]
  | ok place =>
    obtain ⟨names, other⟩ := place
    simp [Except.toOption, eq_comm]

theorem lstat?_eq_some_iff :
    t.lstat? p = some node ↔ ∃ names, t.locate false p = .ok ⟨names, node⟩ := node_eq_some_iff

theorem stat?_eq_some_iff :
    t.stat? p = some node ↔ ∃ names, t.locate true p = .ok ⟨names, node⟩ := node_eq_some_iff

theorem lstat?_eq_none (h : ¬p.Fits) : t.lstat? p = none := by
  refine Option.eq_none_iff_forall_ne_some.mpr fun node hnode => ?_
  obtain ⟨names, hlocate⟩ := lstat?_eq_some_iff.mp hnode
  exact h (fits_of_locate hlocate)

theorem fits_of_stat? (h : t.stat? p = some node) : p.Fits := by
  obtain ⟨names, hlocate⟩ := stat?_eq_some_iff.mp h
  exact fits_of_locate hlocate

theorem stat?_eq_none (h : ¬p.Fits) : t.stat? p = none :=
  Option.eq_none_iff_forall_ne_some.mpr fun _ hnode => h (fits_of_stat? hnode)

/-- **With a last link followed or not**, the same is found at a path, or a link is there. -/
theorem lstat?_eq_stat?_or_link (t : Tree) (p : Path) :
    t.lstat? p = t.stat? p ∨ ∃ target, t.lstat? p = some (.link target) := by
  by_cases hfits : p.Fits
  · rw [lstat?, stat?, locate_of_fits hfits, locate_of_fits hfits]
    rcases @followSteps_or_link t.root linkLimit t.trail p.steps with
      hsame | ⟨names, target, hlink⟩
    · exact .inl (by rw [hsame])
    · exact .inr ⟨target, node_eq_some_iff.mpr ⟨names, hlink⟩⟩
  · exact .inl (by rw [lstat?_eq_none hfits, stat?_eq_none hfits])

theorem stat?_of_lstat? (h : t.lstat? p = some node) (hlink : ∀ target, node ≠ .link target) :
    t.stat? p = some node := by
  rcases lstat?_eq_stat?_or_link t p with hsame | ⟨target, htarget⟩
  · rw [← hsame, h]
  · exact absurd (Option.some.inj (h.symm.trans htarget)) (hlink target)

/-- **A root is entered** if there is a directory once links are followed. -/
theorem enters_iff_stat? {root : Path} :
    t.Enters root inside ↔ t.stat? root = some (.directory inside) := by
  constructor
  · rintro (h | ⟨-, h⟩)
    · exact stat?_of_lstat? h nofun
    · exact h
  · intro h
    rcases lstat?_eq_stat?_or_link t root with hsame | hlink
    · exact .inl (hsame.trans h)
    · exact .inr ⟨hlink, h⟩

/-- A root that does not exist reaches nothing. -/
theorem Reaches.has {root : Path} (h : t.Reaches root p) : t.has root = true := by
  cases h with
  | file h => rw [has, stat?_of_lstat? h nofun, Option.isSome_some]
  | below h hin => rw [has, enters_iff_stat?.mp h, Option.isSome_some]

/-- A root that is not looked up reaches nothing. -/
theorem Reaches.fits {root : Path} (h : t.Reaches root p) : root.Fits := by
  obtain ⟨node, hstat⟩ := Option.isSome_iff_exists.mp h.has
  exact fits_of_stat? hstat

/-! ## 5. Lawful trees

A lawful tree gives lawful directories, wherever links lead. -/

theorem lawful_trail (h : t.root.Lawful) : t.trail.Lawful := by
  have hfold (names : List Name) (trail : Trail) (l : Listing) (htrail : trail.Lawful)
      (hl : l.Lawful) :
      Trail.Lawful (names.foldl (fun (trail, l) n => ((n, l.inside n) :: trail, l.inside n))
        (trail, l)).1 := by
    induction names generalizing trail l with
    | nil => exact htrail
    | cons n names ih =>
      have hinside := Listing.lawful_inside hl n
      exact ih _ _ (List.forall_mem_cons.mpr ⟨hinside, htrail⟩) hinside
  exact hfold t.directory [] t.root nofun h

/-- **A directory that is found in a lawful tree** is lawful. -/
theorem lawful_of_stat? (h : t.root.Lawful) (hstat : t.stat? p = some (.directory inside)) :
    inside.Lawful := by
  obtain ⟨names, hlocate⟩ := stat?_eq_some_iff.mp hstat
  rw [locate_of_fits (fits_of_locate hlocate)] at hlocate
  exact lawful_followSteps h (lawful_trail h) hlocate

end Tree

end LintRun
