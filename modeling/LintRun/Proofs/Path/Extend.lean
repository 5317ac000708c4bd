import LintRun.Proofs.Path.Below
import LintRun.Tree.Locate

/-!
# Paths that lead on through names

A path that leads on has its own parts and then the names (`parts_extend`), so what it comes to
is given by what it starts from (`normalize_extend_congr`).

Grounded paths are what names make from the root (`IsGrounded.exists_names`).  How they are
spelled, what they lead on to and which one lies below which is a matter of the names.

What a path in normal form prescribes to be followed is its parts, and for the root a `here`
more (`IsNormal.steps_eq`).

To go on name by name is to write the path of each directory on the way.  From a path in normal
form, other than `.`, these paths are in normal form as well, and the last one is what the path
leads on to (`IsNormal.normalize_extend`).  Going on makes no path shorter (`length_through_le`).

Leading on is done with names from a directory, which are never empty, never `.` or `..`, and
without slashes (`Plain`).  For other names these statements would be false, so the condition
is on each of them.

The first three sections deal with a path as a whole: leading on puts slashes and names behind
its bytes, which is another spelling of what a walk writes name by name.  The last section is
about that second spelling.  The two differ where the first path ends in a slash, and this is
why the statement there is about a path in normal form, or takes the normal form of what comes
out; the `.` has to be left out, since a walk from it spells `./a` where the normal form is
`a`.
-/

namespace LintRun

namespace Path

variable {p q : Path} {names : List Name}

/-! ## 1. Parts

A slash behind a path that is not empty starts nothing new: no root and no `here`. -/

@[simp] theorem extend_nil (p : Path) : p.extend [] = p := by
  rw [extend, List.flatMap_nil, List.append_nil]

/-- To lead on twice is to lead on by all names. -/
theorem extend_append (p : Path) (xs ys : List Name) :
    p.extend (xs ++ ys) = (p.extend xs).extend ys := by
  simp only [extend, List.flatMap_append, List.append_assoc]

theorem extend_bytes_ne_nil (h : p.bytes ≠ []) (names : List Name) :
    (p.extend names).bytes ≠ [] :=
  List.append_ne_nil_of_left_ne_nil h _

theorem inner_cons_slash (ys : List UInt8) : inner ⟨slash :: ys⟩ = inner ⟨ys⟩ :=
  inner_slash [] ys

/-- **The parts of a path that leads on** are its own and then those of what follows. -/
theorem parts_extend (h : p.bytes ≠ []) (names : List Name) :
    (p.extend names).parts = p.parts ++ inner ⟨names.flatMap (slash :: ·)⟩ := by
  cases names with
  | nil =>
    rw [extend_nil, List.flatMap_nil, show inner ⟨[]⟩ = [] from rfl, List.append_nil]
  | cons n names =>
    rw [extend, List.flatMap_cons, List.cons_append, inner_cons_slash]
    exact parts_slash h _

/-- A plain name is one part. -/
theorem inner_of_plain {n : Name} (h : Plain n) : inner ⟨n⟩ = [.name n] := by
  have hpart : innerPart n = some (.name n) := innerPart_partBytes (q := .name n) h
  rw [inner, pieces_of_free h.2.2.2, List.filterMap_cons, hpart]
  rfl

/-- What follows has the names for parts. -/
theorem inner_names (h : ∀ n ∈ names, Plain n) :
    inner ⟨names.flatMap (slash :: ·)⟩ = names.map .name := by
  induction names with
  | nil => rfl
  | cons n names ih =>
    obtain ⟨hn, hnames⟩ := List.forall_mem_cons.mp h
    have hcut : inner ⟨n ++ names.flatMap (slash :: ·)⟩ =
        inner ⟨n⟩ ++ inner ⟨names.flatMap (slash :: ·)⟩ := by
      cases names with
      | nil =>
        rw [List.flatMap_nil, List.append_nil, show inner ⟨[]⟩ = [] from rfl, List.append_nil]
      | cons m ms =>
        rw [List.flatMap_cons, List.cons_append, inner_slash, inner_cons_slash]
    rw [List.flatMap_cons, List.cons_append, inner_cons_slash, hcut, inner_of_plain hn,
      ih hnames]
    rfl

/-- **What a path that leads on comes to** is given by what it starts from. -/
theorem normalize_extend_congr (hp : p.bytes ≠ []) (hq : q.bytes ≠ [])
    (h : p.normalize = q.normalize) (names : List Name) :
    (p.extend names).normalize = (q.extend names).normalize := by
  show ofParts (settle (p.extend names).parts) = ofParts (settle (q.extend names).parts)
  rw [parts_extend hp, parts_extend hq, settle_append_congr (settle_parts_congr h) rfl]

theorem IsNormal.bytes_ne_nil (h : p.IsNormal) : p.bytes ≠ [] := by
  intro hempty
  obtain rfl : p = ⟨[]⟩ := congrArg Path.mk hempty
  rcases h.parts_cases with hparts | ⟨hparts, -⟩
  · cases hparts
  · exact hparts rfl

/-- Names may follow settled parts. -/
theorem Settled.append_names {qs : List Part} (h : Settled qs) (hn : ∀ n ∈ names, Plain n) :
    Settled (qs ++ names.map .name) := by
  obtain ⟨base, before, rfl, hbase, hbefore⟩ := h
  refine ⟨base, before ++ names, ?_, hbase, fun n hmem => ?_⟩
  · rw [List.map_append, List.append_assoc]
  · rcases List.mem_append.mp hmem with hmem | hmem
    · exact hbefore n hmem
    · exact hn n hmem

/-- **The parts of what a normal form leads on to**: the names come after its own parts, and
in the place of a `here`. -/
theorem IsNormal.parts_extend (h : p.IsNormal) (hne : names ≠ []) (hn : ∀ n ∈ names, Plain n) :
    (p.extend names).normalize.parts =
      (if p.parts = [.here] then [] else p.parts) ++ names.map .name := by
  have hmap : names.map Part.name ≠ [] := by simpa using hne
  rw [normalize, parts_ofParts (settled_settle _), Path.parts_extend h.bytes_ne_nil,
    inner_names hn]
  rcases h.parts_cases with hparts | ⟨-, hsettled⟩
  · have hnames : settle (names.map .name) = names.map .name :=
      settle_of_settled ⟨[], names, rfl, .inr ⟨0, rfl⟩, hn⟩
    rw [hparts, if_pos rfl, show settle ([.here] ++ names.map .name) = names.map .name from hnames,
      if_neg hmap, List.nil_append]
  · have hhere : p.parts ≠ [.here] := by
      intro hparts
      have hstep := settle_of_settled (hparts ▸ hsettled)
      cases hstep
    rw [settle_of_settled (hsettled.append_names hn), if_neg hhere,
      if_neg (List.append_ne_nil_of_right_ne_nil _ hmap)]

/-! ## 2. Names from the root

Grounded paths and lists of plain names are the same thing, and the second are easier to
compare. -/

theorem settled_root_names (h : ∀ n ∈ names, Plain n) : Settled (.root :: names.map .name) :=
  ⟨[.root], names, rfl, .inl rfl, h⟩

theorem parts_ofNames (h : ∀ n ∈ names, Plain n) :
    (ofNames names).parts = .root :: names.map .name := by
  rw [ofNames, parts_ofParts (settled_root_names h), if_neg nofun]

/-- Names from the root make a grounded path. -/
theorem isGrounded_ofNames (h : ∀ n ∈ names, Plain n) : (ofNames names).IsGrounded := by
  have hparts := parts_ofNames h
  have hnormal : (ofNames names).normalize = ofNames names := by
    rw [normalize, hparts, settle_of_settled (settled_root_names h), ofNames]
  have habs : (ofNames names).isAbsolute = true := by
    rw [← root_mem_parts, hparts]
    exact List.mem_cons_self
  exact hnormal ▸ isGrounded_normalize habs

/-- **Grounded paths** are what names make from the root. -/
theorem IsGrounded.exists_names (h : p.IsGrounded) :
    ∃ names, p = ofNames names ∧ ∀ n ∈ names, Plain n := by
  obtain ⟨names, hsettle, hnames⟩ := settle_parts_of_isAbsolute h.isAbsolute
  have hnormal : ofParts (settle p.parts) = p := h.isNormal
  rw [hsettle] at hnormal
  exact ⟨names, hnormal.symm, hnames⟩

theorem joinParts_names (n : Name) (names : List Name) :
    joinParts (.name n :: names.map .name) = n ++ names.flatMap (slash :: ·) := by
  induction names generalizing n with
  | nil => exact (List.append_nil n).symm
  | cons m ms ih =>
    rw [List.map_cons, List.flatMap_cons, List.cons_append, ← ih m]
    rfl

/-- How names from the root are spelled. -/
theorem bytes_ofNames (names : List Name) :
    (ofNames names).bytes = if names = [] then [slash] else names.flatMap (slash :: ·) := by
  cases names with
  | nil => rfl
  | cons n names =>
    rw [if_neg nofun, List.flatMap_cons, List.cons_append, ← joinParts_names]
    rfl

theorem bytes_ofNames_ne_nil (names : List Name) : (ofNames names).bytes ≠ [] := by
  rw [bytes_ofNames]
  cases names with
  | nil => exact List.cons_ne_nil slash []
  | cons n names =>
    rw [if_neg nofun, List.flatMap_cons]
    exact List.cons_ne_nil slash _

/-- **Names lead on** to all the names together. -/
theorem normalize_extend_ofNames {more : List Name} (h : ∀ n ∈ names ++ more, Plain n) :
    ((ofNames names).extend more).normalize = ofNames (names ++ more) := by
  have hnames : ∀ n ∈ names, Plain n := fun n hn => h n (List.mem_append_left _ hn)
  have hmore : ∀ n ∈ more, Plain n := fun n hn => h n (List.mem_append_right _ hn)
  rw [normalize, parts_extend (bytes_ofNames_ne_nil names), inner_names hmore,
    parts_ofNames hnames, List.cons_append, ← List.map_append,
    settle_of_settled (settled_root_names h), ofNames]

theorem normalize_extend_root (h : ∀ n ∈ names, Plain n) :
    ((ofNames []).extend names).normalize = ofNames names :=
  normalize_extend_ofNames (show ∀ n ∈ [] ++ names, Plain n from h)

/-- A path is spelled like the paths that it leads to, as far as it goes. -/
theorem bytes_ofNames_isPrefix (names more : List Name) :
    (ofNames names).bytes <+: (ofNames (names ++ more)).bytes := by
  rw [bytes_ofNames, bytes_ofNames]
  cases names with
  | nil =>
    cases more with
    | nil => exact List.prefix_rfl
    | cons n more => exact List.prefix_append [slash] _
  | cons n names =>
    rw [if_neg nofun, if_neg (by simp), List.flatMap_append]
    exact List.prefix_append _ _

/-! ## 3. Steps

The operating system follows a path by more than its parts: a slash at the end asks for a
directory, and a `.` in the middle stands for one.  A normal form has neither, but for the root
itself. -/

/-- The step that a stretch between slashes prescribes. -/
def stepOf (piece : Name) : Option Part :=
  if piece = [] then none
  else if piece = [dot] then some .here
  else if piece = [dot, dot] then some .up
  else some (.name piece)

theorem steps_eq (p : Path) :
    p.steps = (if p.isAbsolute then [.root] else []) ++ (pieces isSlash p.bytes).filterMap stepOf ++
      (if p.bytes.getLast? = some slash then [.here] else []) := rfl

/-- What may stand anywhere prescribes itself. -/
theorem stepOf_partBytes {q : Part} (h : IsStep q) : stepOf (partBytes q) = some q := by
  cases q with
  | up => rfl
  | name n =>
    obtain ⟨h0, h1, h2, -⟩ := h
    simp [stepOf, partBytes, h0, h1, h2]
  | root => exact absurd h (by simp [IsStep])
  | here => exact absurd h (by simp [IsStep])

theorem filterMap_stepOf {qs : List Part} (h : ∀ q ∈ qs, IsStep q) :
    (qs.map partBytes).filterMap stepOf = qs := by
  induction qs with
  | nil => rfl
  | cons q qs ih =>
    obtain ⟨hq, hqs⟩ := List.forall_mem_cons.mp h
    rw [List.map_cons, List.filterMap_cons, stepOf_partBytes hq, ih hqs]

/-- What ends in a part that may stand anywhere does not end in a slash. -/
theorem getLast?_joinParts {q : Part} {qs before : List Part}
    (hfree : ∀ r ∈ q :: qs, Free isSlash (partBytes r)) {last : Part}
    (hparts : q :: qs = before ++ [last]) (hlast : IsStep last) :
    (joinParts (q :: qs)).getLast? ≠ some slash := by
  intro hslash
  obtain ⟨xs, hxs⟩ := List.getLast?_eq_some_iff.mp hslash
  have hpieces := pieces_joinParts hfree
  rw [hxs, hparts, pieces_slash, List.map_append] at hpieces
  obtain ⟨-, hpiece⟩ := List.append_inj' hpieces rfl
  have hpart := innerPart_partBytes hlast
  rw [← List.singleton_inj.mp hpiece] at hpart
  cases hpart

/-- What parts without a root prescribe when they are spelled out. -/
theorem steps_joinParts {q : Part} {qs : List Part} (h : ∀ r ∈ q :: qs, IsStep r) :
    steps ⟨joinParts (q :: qs)⟩ = q :: qs := by
  have hfree : ∀ r ∈ q :: qs, Free isSlash (partBytes r) := fun r hr => free_partBytes (h r hr)
  have habs : isAbsolute ⟨joinParts (q :: qs)⟩ = false := by
    rw [Bool.eq_false_iff, Ne, ← root_mem_parts, parts_joinParts h]
    exact fun hroot => h .root hroot
  have hlast := getLast?_joinParts hfree (List.dropLast_append_getLast (List.cons_ne_nil q qs)).symm
    (h _ (List.getLast_mem _))
  rw [steps_eq, habs, pieces_joinParts hfree, filterMap_stepOf h, if_neg hlast, List.append_nil]
  rfl

/-- What a root and the parts after it prescribe when they are spelled out. -/
theorem steps_joinParts_root {q : Part} {qs : List Part} (h : ∀ r ∈ q :: qs, IsStep r) :
    steps ⟨joinParts (.root :: q :: qs)⟩ = .root :: q :: qs := by
  have hfree : ∀ r ∈ .root :: q :: qs, Free isSlash (partBytes r) := by
    intro r hr
    rcases List.mem_cons.mp hr with rfl | hr
    · exact free_nil
    · exact free_partBytes (h r hr)
  have hparts : .root :: q :: qs =
      .root :: (q :: qs).dropLast ++ [(q :: qs).getLast (List.cons_ne_nil q qs)] := by
    rw [List.cons_append, List.dropLast_append_getLast]
  have hlast := getLast?_joinParts hfree hparts (h _ (List.getLast_mem _))
  have hinner : ((.root :: q :: qs : List Part).map partBytes).filterMap stepOf = q :: qs := by
    rw [List.map_cons, List.filterMap_cons]
    exact filterMap_stepOf h
  rw [steps_eq, pieces_joinParts hfree, hinner, if_neg hlast, List.append_nil]
  rfl

/-- Settled parts that do not start at the root may all stand anywhere. -/
theorem Settled.isStep {q : Part} {qs : List Part} (h : Settled (q :: qs)) (hq : q ≠ .root) :
    ∀ r ∈ q :: qs, IsStep r := by
  refine List.forall_mem_cons.mpr ⟨?_, isStep_of_settled_cons h⟩
  obtain ⟨base, names, heq, hbase, hnames⟩ := h
  have hmem : q ∈ base ++ names.map .name := heq ▸ List.mem_cons_self
  rcases hbase with rfl | ⟨k, rfl⟩
  · exact absurd (List.cons.inj heq).1 hq
  · rcases List.mem_append.mp hmem with hup | hname
    · rw [List.eq_of_mem_replicate hup]
      trivial
    · obtain ⟨n, hn, rfl⟩ := List.mem_map.mp hname
      exact hnames n hn

/-- **What a normal form prescribes** is its parts; the root asks for a directory besides. -/
theorem IsNormal.steps_eq (h : p.IsNormal) :
    p.steps = p.parts ++ if p.parts = [.root] then [.here] else [] := by
  have hp : p = ofParts (settle p.parts) := h.symm
  rcases h.parts_cases with hparts | ⟨hne, hsettled⟩
  · rw [hparts] at hp ⊢
    rw [hp]
    rfl
  · rw [settle_of_settled hsettled] at hp
    generalize p.parts = qs at *
    subst hp
    cases qs with
    | nil => exact absurd rfl hne
    | cons q qs =>
      cases q with
      | root =>
        cases qs with
        | nil => rfl
        | cons r rs =>
          rw [if_neg nofun, List.append_nil]
          exact steps_joinParts_root (isStep_of_settled_cons hsettled)
      | here => exact absurd (hsettled.isStep nofun .here List.mem_cons_self) id
      | up =>
        rw [if_neg nofun, List.append_nil]
        exact steps_joinParts (hsettled.isStep nofun)
      | name n =>
        rw [if_neg nofun, List.append_nil]
        exact steps_joinParts (hsettled.isStep nofun)

/-- What a normal form leads on to prescribes its parts and then the names. -/
theorem IsNormal.steps_extend (h : p.IsNormal) (hne : names ≠ []) (hn : ∀ n ∈ names, Plain n) :
    (p.extend names).normalize.steps =
      (if p.parts = [.here] then [] else p.parts) ++ names.map .name := by
  have hparts := h.parts_extend hne hn
  have hroot : (p.extend names).normalize.parts ≠ [.root] := by
    intro hroot
    have hlast : Part.name (names.getLast hne) ∈ (p.extend names).normalize.parts := by
      rw [hparts]
      exact List.mem_append_right _ (List.mem_map_of_mem (List.getLast_mem hne))
    rw [hroot] at hlast
    cases List.mem_singleton.mp hlast
  rw [(isNormal_normalize _).steps_eq, if_neg hroot, List.append_nil, hparts]

/-! ## 4. Name by name

`through` joins one name after another, as a walk does.  Its bytes matter as well as what it
comes to, because the operating system limits the length of a path that it is given. -/

theorem through_append (p : Path) (xs ys : List Name) :
    p.through (xs ++ ys) = (p.through xs).through ys := List.foldl_append

theorem Plain.isAbsolute_eq_false {n : Name} (h : Plain n) : isAbsolute ⟨n⟩ = false := by
  rw [isAbsolute, beq_eq_false_iff_ne]
  intro hslash
  have hfree := h.2.2.2 slash (List.mem_of_mem_head? hslash)
  exact absurd hfree (by decide)

/-- A relative path makes the path that it is joined to no shorter. -/
theorem length_join_le {rel : Path} (h : rel.isAbsolute = false) :
    p.bytes.length ≤ (p.join rel).bytes.length := by
  rw [join, if_neg (by rw [h]; exact Bool.false_ne_true)]
  split
  · exact (List.prefix_append _ _).length_le
  · exact (List.prefix_append _ _).length_le

/-- **No directory on the way has a longer path** than what is below it.  So a walk that gets
somewhere can open every directory on the way there. -/
theorem length_through_le (h : ∀ n ∈ names, Plain n) :
    p.bytes.length ≤ (p.through names).bytes.length := by
  induction names generalizing p with
  | nil => exact Nat.le_refl _
  | cons n names ih =>
    obtain ⟨hn, hnames⟩ := List.forall_mem_cons.mp h
    exact Nat.le_trans (length_join_le hn.isAbsolute_eq_false) (ih hnames)

/-- One part more is written behind a slash. -/
theorem joinParts_concat {qs : List Part} (h : qs ≠ []) (q : Part) :
    joinParts (qs ++ [q]) = joinParts qs ++ slash :: partBytes q := by
  induction qs with
  | nil => exact absurd rfl h
  | cons r rs ih =>
    cases rs with
    | nil => rfl
    | cons t ts =>
      show partBytes r ++ slash :: joinParts (t :: ts ++ [q]) =
        partBytes r ++ slash :: joinParts (t :: ts) ++ slash :: partBytes q
      rw [ih (List.cons_ne_nil t ts), List.append_assoc, List.cons_append]

/-- Settled parts are free of slashes, and what they make ends in one only if they are the root
alone. -/
theorem Settled.getLast?_joinParts {qs : List Part} (h : Settled qs) (hne : qs ≠ [])
    (hroot : qs ≠ [.root]) : (joinParts qs).getLast? ≠ some slash := by
  obtain ⟨q, rest, rfl⟩ := List.exists_cons_of_ne_nil hne
  have hsteps := isStep_of_settled_cons h
  have hlast : IsStep ((q :: rest).getLast (List.cons_ne_nil q rest)) := by
    cases rest with
    | nil => exact h.isStep (fun hq => hroot (hq ▸ rfl)) _ (List.getLast_mem _)
    | cons r rs =>
      rw [List.getLast_cons_cons]
      exact hsteps _ (List.getLast_mem _)
  refine Path.getLast?_joinParts (List.forall_mem_cons.mpr ⟨?_, fun r hr => ?_⟩)
    (List.dropLast_append_getLast (List.cons_ne_nil q rest)).symm hlast
  · by_cases hq : q = .root
    · rw [hq]
      exact free_nil
    · exact free_partBytes (h.isStep hq q List.mem_cons_self)
  · exact free_partBytes (hsteps r hr)

/-- **A name joined to a normal form** comes after its parts. -/
theorem IsNormal.join_name (h : p.IsNormal) (hhere : p.parts ≠ [.here]) {n : Name}
    (hn : Plain n) : p.join ⟨n⟩ = ofParts (p.parts ++ [.name n]) := by
  have hp : p = ofParts (settle p.parts) := h.symm
  obtain ⟨hne, hsettled⟩ := h.parts_cases.resolve_left hhere
  rw [settle_of_settled hsettled] at hp
  rw [join, if_neg (by rw [hn.isAbsolute_eq_false]; exact Bool.false_ne_true)]
  by_cases hroot : p.parts = [.root]
  · rw [hroot] at hp ⊢
    rw [hp]
    rfl
  · -- The parts are written out, and neither empty nor with a slash at the end.
    obtain ⟨q, qs, hqs⟩ := List.exists_cons_of_ne_nil hne
    have hbytes : p.bytes = joinParts p.parts := by
      rw [hqs] at hp hroot ⊢
      cases q <;> cases qs <;> first | exact absurd rfl hroot | exact congrArg bytes hp
    have hslash := hsettled.getLast?_joinParts hne hroot
    rw [← hbytes] at hslash
    rw [if_neg (not_or.mpr ⟨h.bytes_ne_nil, hslash⟩), hbytes]
    have hwritten : ofParts (p.parts ++ [.name n]) = ⟨joinParts (p.parts ++ [.name n])⟩ := by
      rw [hqs]
      cases q <;> cases qs <;> rfl
    rw [hwritten, joinParts_concat hne]
    rfl

/-- **Names are gone through from a normal form** in normal forms, to what it leads on to. -/
theorem IsNormal.normalize_extend (h : p.IsNormal) (hhere : p.parts ≠ [.here])
    (hn : ∀ n ∈ names, Plain n) : (p.extend names).normalize = p.through names := by
  induction names generalizing p with
  | nil =>
    rw [extend_nil]
    exact h
  | cons n names ih =>
    obtain ⟨hplain, hnames⟩ := List.forall_mem_cons.mp hn
    have hnext := h.join_name hhere hplain
    have hsettled : Settled (p.parts ++ [.name n]) :=
      (h.parts_cases.resolve_left hhere).2.append_names (List.forall_mem_singleton.mpr hplain)
    have hparts : (p.join ⟨n⟩).parts = p.parts ++ [.name n] := by
      rw [hnext, parts_ofParts hsettled, if_neg (by simp)]
    have hnormal : (p.join ⟨n⟩).IsNormal := by
      rw [IsNormal, normalize, hparts, settle_of_settled hsettled, hnext]
    have hone : (p.extend [n]).normalize = (p.join ⟨n⟩).normalize := by
      rw [normalize, normalize, hparts, Path.parts_extend h.bytes_ne_nil,
        inner_names (List.forall_mem_singleton.mpr hplain)]
      rfl
    have hhere' : (p.join ⟨n⟩).parts ≠ [.here] := by
      rw [hparts]
      intro heq
      obtain ⟨-, hlast⟩ := List.append_eq_singleton_iff.mp heq |>.resolve_right (by simp)
      cases hlast
    calc (p.extend (n :: names)).normalize
        = ((p.extend [n]).extend names).normalize := by rw [← extend_append]; rfl
      _ = ((p.join ⟨n⟩).extend names).normalize :=
          normalize_extend_congr (extend_bytes_ne_nil h.bytes_ne_nil _) hnormal.bytes_ne_nil hone _
      _ = (p.join ⟨n⟩).through names := ih hnormal hhere' hnames

/-- From the root, going name by name spells what the names make. -/
theorem through_ofNames {more : List Name} (h : ∀ n ∈ names ++ more, Plain n) :
    (ofNames names).through more = ofNames (names ++ more) := by
  have hnames : ∀ n ∈ names, Plain n := fun n hn => h n (List.mem_append_left _ hn)
  have hhere : (ofNames names).parts ≠ [.here] := by
    rw [parts_ofNames hnames]
    exact nofun
  rw [← (isGrounded_ofNames hnames).isNormal.normalize_extend hhere fun n hn =>
    h n (List.mem_append_right _ hn)]
  exact normalize_extend_ofNames h

end Path

end LintRun
