import LintRun.Proofs.Path.Below

/-!
# Reading paths one after another

What a path comes to from a directory, and then another one from there, is what the two joined
come to from the directory (`resolve_resolve`), whichever of them is absolute, empty or leads up.
So it does not matter whether paths are joined before they are normalized or after.

A relative path that does not lead up, read from an absolute directory, comes to the directory
with the names of its normal form after it (`parts_resolve_relative`): it stays below the
directory, and what is left when the directory is taken off is the normal form again.

For the first part the four cases are gone through in which the second or the third path is
absolute or empty.  Where all are relative, both sides settle the same three rows of parts one
after another, and it does not matter that the first two were settled in between.

For the second part a relative path that does not lead up settles to names, so that nothing of
the directory is ever taken back.  A path that does lead up may come out above its directory,
and then nothing can be taken off; the condition in the law is about that alone.
-/

namespace LintRun

namespace Path

variable {root rel : Path}

/-! ## 1. One after another -/

/-- A join is absolute if one of its paths is. -/
theorem isAbsolute_join_eq (root rel : Path) :
    (root.join rel).isAbsolute = (root.isAbsolute || rel.isAbsolute) := by
  cases hrel : rel.isAbsolute with
  | true => rw [join, if_pos hrel, hrel, Bool.or_true]
  | false =>
    have hmem : .root ∈ (root.join rel).parts ↔ .root ∈ root.parts := by
      rw [← root_mem_settle, settle_parts_join hrel, root_mem_settle, List.mem_append,
        root_mem_parts (p := rel), hrel]
      simp
    rw [root_mem_parts, root_mem_parts] at hmem
    rw [Bool.or_false]
    exact Bool.eq_iff_iff.mpr hmem

/-- **Reading one path after another** is reading the two joined. -/
theorem resolve_resolve (root a b : Path) :
    (root.resolve a).resolve b = root.resolve (a.join b) := by
  have hdirectory : (root.resolve a).resolve b = (root.join a).resolve b :=
    resolve_congr (normalize_normalize (root.join a)) rfl
  rw [hdirectory]
  unfold resolve
  cases hb : b.isAbsolute with
  | true =>
    have hjoin (p : Path) : p.join b = b := if_pos hb
    rw [hjoin, hjoin, hjoin]
  | false =>
    cases ha : a.isAbsolute with
    | true =>
      have habs := isAbsolute_join ha b
      rw [join.eq_def root a, if_pos ha, join.eq_def root (a.join b), if_pos habs]
    | false =>
      have hrel : (a.join b).isAbsolute = false := by
        rw [isAbsolute_join_eq, ha, hb]
        rfl
      have hsettle : settle ((root.join a).join b).parts = settle (root.join (a.join b)).parts :=
        calc
          settle ((root.join a).join b).parts
            = settle ((root.join a).parts ++ b.parts) := settle_parts_join hb
          _ = settle (root.parts ++ a.parts ++ b.parts) :=
            settle_append_congr (settle_parts_join ha) rfl
          _ = settle (root.parts ++ (a.parts ++ b.parts)) := by rw [List.append_assoc]
          _ = settle (root.parts ++ (a.join b).parts) :=
            settle_append_congr rfl (settle_parts_join hb).symm
          _ = settle (root.join (a.join b)).parts := (settle_parts_join hrel).symm
      exact congrArg ofParts hsettle

/-! ## 2. Paths that do not lead up

Whether a path leads up is told by the first part of its normal form, since in a normal form
`up`s come before all names. -/

/-- The settled parts of a relative path that does not lead up are names. -/
theorem settle_parts_of_relative (hrel : rel.isAbsolute = false)
    (hup : rel.normalize.parts.head? ≠ some .up) :
    ∃ names : List Name, settle rel.parts = names.map .name ∧ ∀ n ∈ names, Plain n := by
  obtain ⟨base, names, hsettle, hbase, hnames⟩ := settled_settle rel
  have hroot : .root ∉ settle rel.parts := by
    rw [root_mem_settle, root_mem_parts, hrel]
    exact Bool.false_ne_true
  rcases hbase with rfl | ⟨k, rfl⟩
  · rw [hsettle] at hroot
    exact absurd List.mem_cons_self hroot
  · cases k with
    | zero => exact ⟨names, hsettle, hnames⟩
    | succ k =>
      rw [normalize, parts_ofParts (settled_settle rel), hsettle] at hup
      exact absurd rfl hup

/-- What a normal form is read as: the settled parts, or a `here` if there are none. -/
theorem parts_normalize (p : Path) :
    p.normalize.parts = if settle p.parts = [] then [.here] else settle p.parts :=
  parts_ofParts (settled_settle p)

theorem parts_normalize_of_isAbsolute (h : root.isAbsolute = true) :
    root.normalize.parts = settle root.parts := by
  obtain ⟨names, hsettle, -⟩ := settle_parts_of_isAbsolute h
  rw [parts_normalize, if_neg (by rw [hsettle]; nofun)]

/-- The parts of a normal form, a single `here` left out, are the settled parts. -/
theorem settle_eq_ite (hrel : rel.isAbsolute = false)
    (hup : rel.normalize.parts.head? ≠ some .up) :
    (if rel.normalize.parts = [.here] then [] else rel.normalize.parts) = settle rel.parts := by
  obtain ⟨names, hsettle, -⟩ := settle_parts_of_relative hrel hup
  rw [parts_normalize, hsettle]
  cases names with
  | nil => rfl
  | cons n names => simp

/-- **A relative path that does not lead up** adds its names to the directory. -/
theorem parts_resolve_relative (hroot : root.isAbsolute = true) (hrel : rel.isAbsolute = false)
    (hup : rel.normalize.parts.head? ≠ some .up) :
    (root.resolve rel).parts = root.normalize.parts ++ settle rel.parts := by
  obtain ⟨names, hsettle, -⟩ := settle_parts_of_relative hrel hup
  have hjoin : settle (root.join rel).parts = settle root.parts ++ settle rel.parts :=
    calc
      settle (root.join rel).parts
        = settle (root.parts ++ rel.parts) := settle_parts_join hrel
      _ = settle (root.parts ++ settle rel.parts) :=
        settle_append_congr rfl (settle_of_settled (settled_settle rel)).symm
      _ = settle root.parts ++ settle rel.parts := by
        rw [hsettle, settle, settle, List.foldl_append, foldl_settleStep_names]
        simp
  rw [resolve, parts_normalize_of_isAbsolute (isAbsolute_join hroot rel), hjoin,
    parts_normalize_of_isAbsolute hroot]

/-- **Taken off the directory**, what such a path comes to is its normal form, and nothing if
that is the directory itself. -/
theorem below?_resolve_relative (hroot : root.isAbsolute = true) (hrel : rel.isAbsolute = false)
    (hup : rel.normalize.parts.head? ≠ some .up) :
    (root.resolve rel).below? root.normalize =
      some (if rel.normalize.parts = [.here] then ⟨[]⟩ else rel.normalize) := by
  refine below?_eq_some_iff.mpr ⟨settle rel.parts, parts_resolve_relative hroot hrel hup, ?_⟩
  obtain ⟨names, hsettle, -⟩ := settle_parts_of_relative hrel hup
  rw [parts_normalize, normalize, hsettle]
  cases names with
  | nil => rfl
  | cons n names =>
    rw [if_neg (by simp)]
    rfl

/-! ## 3. The law

A normal form of no parts is written as `.`, which has a part of its own, so the law has to
name this case. -/

/-- **Resolving is a congruence and stays below its directory.**  What a path comes to is given
by the normal forms of the directory and of the path, and one path after another comes to what
the two joined come to.  Read from an absolute directory, a relative path whose normal form does
not begin with an `up` comes to the normal form of the directory with exactly the parts of its
own normal form after it, none if that is `.`; so the directory can be taken off, and what is
left is that normal form, or the empty path. -/
theorem resolving_law (root rel : Path) :
    root.resolve rel = root.normalize.resolve rel.normalize ∧
    (∀ a b, (root.resolve a).resolve b = root.resolve (a.join b)) ∧
    (root.isAbsolute = true → rel.isAbsolute = false →
      rel.normalize.parts.head? ≠ some .up →
      (root.resolve rel).parts = root.normalize.parts ++
        (if rel.normalize.parts = [.here] then [] else rel.normalize.parts) ∧
      (root.resolve rel).below? root.normalize =
        some (if rel.normalize.parts = [.here] then ⟨[]⟩ else rel.normalize)) := by
  refine ⟨?_, resolve_resolve root, fun hroot hrel hup => ⟨?_, ?_⟩⟩
  · exact resolve_congr (normalize_normalize root).symm (normalize_normalize rel).symm
  · rw [settle_eq_ite hrel hup]
    exact parts_resolve_relative hroot hrel hup
  · exact below?_resolve_relative hroot hrel hup

end Path

namespace Example

/-- A detour on both sides, and the directory taken off a path below it and off itself. -/
theorem resolving_law_detour :
    (Path.ofString "/src/./x/..").resolve (.ofString "lib/../lib//a.js") =
        .ofString "/src/lib/a.js" ∧
      (Path.ofString "/src/lib/a.js").below? (.ofString "/src") = some (.ofString "lib/a.js") ∧
      (Path.ofString "/src").below? (.ofString "/src") = some (.ofString "") := by
  obtain ⟨hcongr, -, hbelow⟩ :=
    Path.resolving_law (.ofString "/src/./x/..") (.ofString "lib/../lib//a.js")
  obtain ⟨-, -, hnothing⟩ := Path.resolving_law (.ofString "/src") (.ofString "lib/..")
  have hresolve := hcongr.trans (show _ = Path.ofString "/src/lib/a.js" by decide)
  refine ⟨hresolve, ?_, ?_⟩
  · have h := (hbelow (by decide) (by decide) (by decide)).2
    rw [hresolve] at h
    exact h
  · exact (hnothing (by decide) (by decide) (by decide)).2

end Example

end LintRun
