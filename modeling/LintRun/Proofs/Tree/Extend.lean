import LintRun.Proofs.Tree.Locate

/-!
# Lookups that go on

Where some steps lead to a directory, more steps are followed from there (`followSteps_append`).
So from a path in normal form that is a directory, names lead to what they lead to in it: to
another directory (`Tree.stat?_extend`), or to an entry of one (`Tree.lstat?_extend`).  The path
that they make must not be too long to be looked up.

Read from the root this says what is at a grounded path (`Tree.stat?_ofNames`,
`Tree.lstat?_ofNames`).

A walk goes on in the same way: it passes along names and then more if it opens the directory in
between and passes along the others from there (`Tree.passes_append`).

`followSteps_append` has an existential in it, a trail and a number of links that are left.
Nothing more can be said in general: the first steps may have gone through links, which cost
some of the number and leave a trail that is not the one of the names.  It is enough, since
names that lead through real directories use no links and only look at the directory where the
trail ends.

Steps cannot be told apart from the path without knowing that the path is in normal form; the
root asks for a directory by a step of its own (`followSteps_here`).
-/

namespace LintRun

/-! ## 1. More steps

The induction is on the number of links, and within it on the steps; at a link both sides go on
with the steps that the link puts in front. -/

section Following

variable {root inside : Listing} {followLast : Bool} {trail : Trail} {links : Nat}
  {names placeNames : List Name} {steps more : List Part}

/-- Some steps and then more, when the first lead to a directory.  Of the links that are left
this says no more than that there is a number of them. -/
theorem descend_append {onLink onLink' : Trail → List Part → Except OsError Place} (links : Nat)
    (hself : descend root followLast longName onLink' = followSteps root followLast longName links)
    (hlink : ∀ trail steps, onLink trail steps = .ok ⟨placeNames, .directory inside⟩ →
      ∃ (trail' : Trail) (links' : Nat), trail'.listing root = inside ∧
        onLink' trail (steps ++ more) = followSteps root followLast longName links' trail' more)
    (hmore : more ≠ [])
    (h : descend root true longName onLink trail steps = .ok ⟨placeNames, .directory inside⟩) :
    ∃ (trail' : Trail) (links' : Nat), trail'.listing root = inside ∧
      descend root followLast longName onLink' trail (steps ++ more) =
        followSteps root followLast longName links' trail' more := by
  induction steps generalizing trail with
  | nil =>
    cases h
    exact ⟨trail, links, rfl, congrFun (congrFun hself trail) more⟩
  | cons q steps ih =>
    have hgoes : (steps ++ more).isEmpty = false := by
      simpa using fun _ => hmore
    cases q with
    | root => exact ih h
    | here => exact ih h
    | up => exact ih h
    | name n =>
      rw [descend] at h
      rw [List.cons_append, descend]
      split at h
      · cases h
      · rename_i hshort
        rw [if_neg hshort]
        -- The same entry is found; only a link is not left to be followed here.
        split at h
        · cases h
        · exact ih h
        · split at h <;> cases h
        · rename_i target _
          simp only [Bool.not_true, Bool.and_false, Bool.false_eq_true, if_false] at h
          simp only [hgoes, Bool.false_and, Bool.false_eq_true, if_false]
          split at h
          · cases h
          · rename_i htarget
            rw [if_neg htarget, ← List.append_assoc]
            exact hlink _ _ h

/-- **Lookups go on from where they came to.** -/
theorem followSteps_append (followLast : Bool) (hmore : more ≠ [])
    (h : followSteps root true longName links trail steps = .ok ⟨placeNames, .directory inside⟩) :
    ∃ (trail' : Trail) (links' : Nat), trail'.listing root = inside ∧
      followSteps root followLast longName links trail (steps ++ more) =
        followSteps root followLast longName links' trail' more := by
  induction links generalizing trail steps with
  | zero => exact descend_append 0 rfl (fun _ _ h => by cases h) hmore h
  | succ links ih =>
    exact descend_append (links + 1) rfl (fun _ _ h => ih h) hmore h

theorem followSteps_nil (root : Listing) (trail : Trail) :
    ∃ names, followSteps root followLast longName links trail [] =
      .ok ⟨names, .directory (trail.listing root)⟩ := by
  cases links with
  | zero => exact ⟨_, rfl⟩
  | succ links => exact ⟨_, rfl⟩

theorem followSteps_here : followSteps root followLast longName links trail (.here :: steps) =
    followSteps root followLast longName links trail steps := by
  cases links with
  | zero => rfl
  | succ links => rfl

/-- The root begins anew, with an empty trail. -/
theorem followSteps_root : followSteps root followLast longName links trail (.root :: steps) =
    followSteps root followLast longName links [] steps := by
  cases links with
  | zero => rfl
  | succ links => rfl

/-- What a normal form leads on to is followed like the normal form and then the names. -/
theorem followSteps_extend {p : Path} (h : p.IsNormal) (hne : names ≠ [])
    (hn : ∀ n ∈ names, Path.Plain n) :
    followSteps root followLast longName links trail (p.extend names).normalize.steps =
      followSteps root followLast longName links trail (p.steps ++ names.map .name) := by
  rw [h.steps_extend hne hn, h.steps_eq]
  by_cases hhere : p.parts = [.here]
  · rw [hhere]
    exact followSteps_here.symm
  by_cases hroot : p.parts = [.root]
  · rw [hroot]
    exact followSteps_root.trans (followSteps_root.trans followSteps_here).symm
  · rw [if_neg hhere, if_neg hroot, List.append_nil]

end Following

/-! ## 2. Names from a directory

The directory may be the end of a link, as it is looked up with links followed; below it the
names go through real directories. -/

namespace Tree

variable {t : Tree} {root : Path} {inside sub : Listing} {names : List Name} {n : Name}
  {node : Node}

/-- Below a directory in normal form names are looked up where it leads to. -/
theorem locate_extend (hroot : root.IsNormal) (henter : t.stat? root = some (.directory inside))
    (hne : names ≠ []) (hn : ∀ n ∈ names, Path.Plain n)
    (hfits : (root.extend names).normalize.Fits) (followLast : Bool) :
    ∃ (trail : Trail) (links : Nat), trail.listing t.root = inside ∧
      t.locate followLast (root.extend names).normalize =
        followSteps t.root followLast longName links trail (names.map .name) := by
  obtain ⟨placeNames, hlocate⟩ := stat?_eq_some_iff.mp henter
  rw [locate_of_fits (fits_of_locate hlocate)] at hlocate
  have hmore : names.map Part.name ≠ [] := by simpa using hne
  obtain ⟨trail, links, hinside, hsteps⟩ := followSteps_append followLast hmore hlocate
  refine ⟨trail, links, hinside, ?_⟩
  rw [locate_of_fits hfits, followSteps_extend hroot hne hn, hsteps]

/-- **From a directory in normal form** names lead to the entry that they lead to in it. -/
theorem lstat?_extend (hlawful : t.root.Lawful) (hroot : root.IsNormal)
    (henter : t.stat? root = some (.directory inside)) (hleads : inside.Leads names sub)
    (hmem : (n, node) ∈ sub.entries) (hfits : (root.extend (names ++ [n])).normalize.Fits) :
    t.lstat? (root.extend (names ++ [n])).normalize = some node := by
  have hinside := lawful_of_stat? hlawful henter
  have hplain := fun m hm => (hinside.isFileName_of_entry hleads hmem m hm).plain
  obtain ⟨trail, links, rfl, hlocate⟩ := locate_extend hroot henter
    (List.append_ne_nil_of_right_ne_nil _ (List.cons_ne_nil n [])) hplain hfits false
  obtain ⟨trail', rfl, hsteps⟩ := followSteps_leads hinside hleads
  obtain ⟨placeNames, hend⟩ := followSteps_last (hinside.of_leads hleads) hmem
  refine lstat?_eq_some_iff.mpr ⟨placeNames, ?_⟩
  rw [hlocate, List.map_append, hsteps]
  exact hend

/-! ## 3. Names from the root

The root is a directory that is always there. -/

theorem locate_root (t : Tree) (followLast : Bool) :
    ∃ placeNames, t.locate followLast (.ofNames []) = .ok ⟨placeNames, .directory t.root⟩ := by
  have hfits : (Path.ofNames []).Fits := ⟨by decide, by decide, by decide⟩
  have hsteps : (Path.ofNames []).steps = [.root, .here] := rfl
  obtain ⟨placeNames, hend⟩ := followSteps_nil t.root []
  refine ⟨placeNames, ?_⟩
  rw [locate_of_fits hfits, hsteps, followSteps_root, followSteps_here, hend]
  rfl

theorem stat?_root (t : Tree) : t.stat? (.ofNames []) = some (.directory t.root) :=
  stat?_eq_some_iff.mpr (t.locate_root true)

theorem lstat?_root (t : Tree) : t.lstat? (.ofNames []) = some (.directory t.root) :=
  lstat?_eq_some_iff.mpr (t.locate_root false)

/-- An entry of a directory that real directories lead to from the root. -/
theorem lstat?_ofNames (hlawful : t.root.Lawful) (hleads : t.root.Leads names sub)
    (hmem : (n, node) ∈ sub.entries) (hfits : (Path.ofNames (names ++ [n])).Fits) :
    t.lstat? (.ofNames (names ++ [n])) = some node := by
  have hplain := fun m hm => (hlawful.isFileName_of_entry hleads hmem m hm).plain
  rw [← Path.normalize_extend_root hplain] at hfits ⊢
  exact lstat?_extend hlawful rfl t.stat?_root hleads hmem hfits

/-! ## 4. Passing

Passing is about paths as they are written, and not about what is found at them; so these
lemmas have no tree in them. -/

variable {more : List Name}

theorem passes_nil (root : Path) : Passes root [] := fun _ _ _ hprefix =>
  absurd (List.prefix_nil.mp hprefix) (List.append_ne_nil_of_right_ne_nil _ (List.cons_ne_nil _ _))

/-- What opens after more names opens before them. -/
theorem opens_of_append (hmore : ∀ n ∈ more, Path.Plain n)
    (h : opens root (names ++ more) = true) : opens root names = true := by
  rw [opens, decide_eq_true_eq, Path.through_append] at h
  rw [opens, decide_eq_true_eq]
  exact Nat.lt_of_le_of_lt (Path.length_through_le hmore) h

/-- **To pass along names and then more** is to open what the names lead to, and to pass along the
others from there. -/
theorem passes_append (hnames : ∀ n ∈ names, Path.Plain n) (hopens : opens root names = true)
    (h : Passes (root.through names) more) : Passes root (names ++ more) := by
  intro dirs n hne hprefix
  have hdirs : dirs <+: names ++ more := (List.prefix_append dirs [n]).trans hprefix
  rcases List.prefix_or_prefix_of_prefix hdirs (List.prefix_append names more) with
    ⟨rest, rfl⟩ | ⟨below, rfl⟩
  · exact opens_of_append (fun m hm => hnames m (List.mem_append_right _ hm)) hopens
  · rw [List.append_assoc, List.prefix_append_right_inj] at hprefix
    by_cases hbelow : below = []
    · rw [hbelow, List.append_nil]
      exact hopens
    · rw [opens, Path.through_append]
      exact h below n hbelow hprefix

end Tree

end LintRun
