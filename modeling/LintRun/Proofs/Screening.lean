import LintRun.Proofs.Tree.Reach
import LintRun.Screening
import Mathlib.Logic.Basic

/-!
# The verdict on a candidate

Whether a candidate stays, and if not by which stage it goes, is a function of the candidate
alone (`Screen.verdict`): the first stage that does not let it pass.  The three stages take
kept and removed files in turn, so the invariant that carries the verdict through them says
both at once (`Screened.Accounts`): what is kept has no verdict yet, and what is removed is
removed by its verdict.

* `Accounts.dropUnless` and `Accounts.dropListed`: what a stage does to the verdict;
* `run_accounts`: screening keeps and removes by the verdict;
* the last section spells the verdict out, with what follows from it.

The stages go through sets in which a candidate is found by its key, and a list of ignored
paths may have spellings of its own.  For paths in normal form the key tells the path, so that
sets can be thought of as sets of paths; all statements have this as a condition on the
candidates, and everything that the program screens satisfies it.

A stage that lists paths is a fold, removing them one after another, and is treated by
induction on the list with one path as the step (`Accounts.dropOne`); a path that is listed
twice is gone the second time.
-/

namespace LintRun

variable {t : Tree} {s : Screen} {candidates : PathSet}

/-- The paths of a set are in normal form. -/
def PathSet.AllNormal (paths : PathSet) : Prop := ∀ p ∈ paths, p.IsNormal

instance (paths : PathSet) : Decidable paths.AllNormal :=
  inferInstanceAs (Decidable (∀ p ∈ paths.toList, p.normalize = p))

/-- Normal forms are told apart by their keys. -/
theorem keysTellApart_of_normal {P : Path → Prop} (h : ∀ p, P p → p.IsNormal) :
    KeysTellApart Path.key P :=
  fun _ _ ha hb => (h _ ha).eq_of_key (h _ hb)

theorem PathSet.has_of_mem {paths : PathSet} {p : Path} (h : p ∈ paths) : paths.has p = true :=
  PathSet.has_iff.mpr ⟨p, h, rfl⟩

theorem PathSet.mem_of_has {paths : PathSet} (hn : paths.AllNormal) {p : Path} (hp : p.IsNormal)
    (h : paths.has p = true) : p ∈ paths := by
  obtain ⟨q, hq, hparts⟩ := PathSet.has_iff.mp h
  rwa [hp.eq_of_parts (hn q hq) hparts.symm]

theorem PathSet.mem_union {a b : PathSet} (ha : a.AllNormal) (hb : b.AllNormal) {p : Path} :
    p ∈ a.union b ↔ p ∈ a ∨ p ∈ b :=
  Ascending.mem_insertAll (keysTellApart_of_normal fun q hq => hq.elim (ha q) (hb q))

/-! ## 1. Verdicts

The order of the stages is the order of the alternatives in the verdict; a reason that comes
later applies only where the earlier ones do not. -/

/-- A stage as far as one candidate is concerned. -/
def Exclusion.when (e : Exclusion) (caught : Bool) : Option Exclusion :=
  if caught then some e else none

@[simp] theorem Exclusion.when_eq_none_iff {e : Exclusion} {caught : Bool} :
    e.when caught = none ↔ caught = false := by
  cases caught <;> simp [Exclusion.when]

@[simp] theorem Exclusion.when_eq_some_iff {e e' : Exclusion} {caught : Bool} :
    e.when caught = some e' ↔ caught = true ∧ e' = e := by
  cases caught <;> simp [Exclusion.when, eq_comm]

namespace Screen

/-- A walk from some ignore root that exists yields the path. -/
def Ignores (t : Tree) (s : Screen) (p : Path) : Prop :=
  ∃ root ∈ s.ignoreRoots, t.has root = true ∧ p ∈ t.walk s.owns root

/-- All that the existing ignore roots yield. -/
def ignored (t : Tree) (s : Screen) : List Path :=
  (s.ignoreRoots.filter t.has).flatMap (t.walk s.owns)

theorem mem_ignored_iff {p : Path} : p ∈ s.ignored t ↔ s.Ignores t p := by
  simp only [ignored, Ignores, List.mem_flatMap, List.mem_filter, and_assoc]

instance {p : Path} : Decidable (s.Ignores t p) := decidable_of_iff _ mem_ignored_iff

/-- The first stage that does not let a path pass. -/
def verdict (t : Tree) (s : Screen) (p : Path) : Option Exclusion :=
  (Exclusion.when .blacklisted (s.blacklist.has p)).or
    ((Exclusion.when .ignoredSubtree (decide (p ∈ s.ignored t))).or
      (Exclusion.when .notChanged (s.changed.any fun changed => !changed.has p)))

variable {p : Path}

theorem verdict_eq_blacklisted_iff :
    s.verdict t p = some .blacklisted ↔ s.blacklist.has p = true := by
  simp [verdict]

theorem verdict_eq_ignoredSubtree_iff :
    s.verdict t p = some .ignoredSubtree ↔ s.blacklist.has p = false ∧ s.Ignores t p := by
  simp [verdict, mem_ignored_iff]

theorem verdict_eq_notChanged_iff :
    s.verdict t p = some .notChanged ↔
      s.blacklist.has p = false ∧ ¬s.Ignores t p ∧
        ∃ changed, s.changed = some changed ∧ changed.has p = false := by
  simp [verdict, mem_ignored_iff, Option.any_eq_true]

theorem verdict_eq_none_iff :
    s.verdict t p = none ↔
      s.blacklist.has p = false ∧ ¬s.Ignores t p ∧
        ∀ changed, s.changed = some changed → changed.has p = true := by
  simp [verdict, mem_ignored_iff, Option.any_eq_false]

end Screen

/-! ## 2. What kept and removed files account for

The invariant determines both sets, which is how two ways to screen are shown to be the same
(`Accounts.unique`). -/

namespace Screened

/-- **The invariant of screening**: a candidate is kept if it has no verdict, and removed by
its verdict otherwise; nothing else is kept or removed. -/
structure Accounts (x : Screened) (candidates : PathSet) (verdict : Path → Option Exclusion) :
    Prop where
  kept : ∀ p, p ∈ x.kept ↔ p ∈ candidates ∧ verdict p = none
  removed : ∀ p e, (p, e) ∈ x.removed ↔ p ∈ candidates ∧ verdict p = some e

variable {x y : Screened} {verdict : Path → Option Exclusion}

/-- Verdicts that agree on the candidates account for the same files. -/
theorem Accounts.congr {verdict' : Path → Option Exclusion} (h : x.Accounts candidates verdict)
    (he : ∀ p ∈ candidates, verdict p = verdict' p) : x.Accounts candidates verdict' where
  kept p := by
    rw [h.kept]
    exact and_congr_right fun hp => by rw [he p hp]
  removed p e := by
    rw [h.removed]
    exact and_congr_right fun hp => by rw [he p hp]

/-- What is kept and removed is determined by the verdict. -/
theorem Accounts.unique (hx : x.Accounts candidates verdict) (hy : y.Accounts candidates verdict) :
    x = y := by
  have hkept : x.kept = y.kept := Ascending.ext_mem fun p => by rw [hx.kept, hy.kept]
  have hremoved : x.removed = y.removed :=
    Ascending.ext_mem fun ⟨p, e⟩ => by rw [hx.removed, hy.removed]
  cases x
  cases y
  rw [Screened.mk.injEq]
  exact ⟨hkept, hremoved⟩

/-- Nothing is removed from files without a verdict. -/
theorem accounts_fresh (hv : ∀ p ∈ candidates, verdict p = none) :
    Accounts ⟨candidates, .empty⟩ candidates verdict where
  kept p := ⟨fun hp => ⟨hp, hv p hp⟩, fun hp => hp.1⟩
  removed p e := by
    constructor
    · exact fun h => absurd h Ascending.not_mem_empty
    · rintro ⟨hp, he⟩
      rw [hv p hp] at he
      exact absurd he (by simp)

/-- **A stage with a test** catches the kept files that do not pass it. -/
theorem Accounts.dropUnless (h : x.Accounts candidates verdict) (e : Exclusion)
    (test : Path → Bool) :
    (x.dropUnless e test).Accounts candidates fun p => (verdict p).or (e.when (!test p)) where
  kept p := by
    simp only [Screened.dropUnless, Ascending.mem_filter, h.kept, Option.or_eq_none_iff,
      Exclusion.when_eq_none_iff, Bool.not_eq_false', and_assoc]
  removed p e' := by
    have hnew : ∀ r : Path × Exclusion,
        r ∈ (x.kept.toList.filter fun p => !test p).map (·, e) ↔
          (r.1 ∈ candidates ∧ verdict r.1 = none) ∧ test r.1 = false ∧ r.2 = e := by
      rintro ⟨q, e''⟩
      simp only [List.mem_map, List.mem_filter, Prod.mk.injEq, Ascending.mem_toList, h.kept,
        Bool.not_eq_true']
      constructor
      · rintro ⟨q', ⟨hq, ht⟩, rfl, rfl⟩
        exact ⟨hq, ht, rfl⟩
      · rintro ⟨hq, ht, he⟩
        exact ⟨q, ⟨hq, ht⟩, rfl, he.symm⟩
    -- A removed file has a verdict and a file removed now has none, so no key is used twice.
    have hapart : KeysTellApart (fun r : Path × Exclusion => r.1.key) fun r =>
        r ∈ x.removed ∨ r ∈ (x.kept.toList.filter fun p => !test p).map (·, e) := by
      rintro ⟨a, ea⟩ ⟨b, eb⟩ ha hb hk
      rw [h.removed, hnew] at ha hb
      have hab : a = b := by
        refine Ascending.eq_of_key_eq (s := candidates) ?_ ?_ hk
        · exact ha.elim (·.1) (·.1.1)
        · exact hb.elim (·.1) (·.1.1)
      subst hab
      rcases ha with ⟨-, ha⟩ | ⟨⟨-, ha⟩, -, ha'⟩ <;> rcases hb with ⟨-, hb⟩ | ⟨⟨-, hb⟩, -, hb'⟩
      · rw [Option.some.inj (ha.symm.trans hb)]
      · exact absurd (ha.symm.trans hb) (by simp)
      · exact absurd (ha.symm.trans hb) (by simp)
      · rw [show ea = eb from ha'.trans hb'.symm]
    simp only [Screened.dropUnless]
    rw [Ascending.mem_insertAll hapart, h.removed, hnew, Option.or_eq_some_iff,
      Exclusion.when_eq_some_iff, Bool.not_eq_true', and_or_left, and_assoc]

/-- One file that a stage lists. -/
theorem Accounts.dropOne (h : x.Accounts candidates verdict) (e : Exclusion) {p : Path}
    (hp : ∀ q ∈ candidates, q.key = p.key → q = p) :
    (x.dropListed e [p]).Accounts candidates fun q => (verdict q).or (e.when (decide (q = p))) := by
  simp only [Screened.dropListed, List.foldl_cons, List.foldl_nil]
  have hkey : ∀ q ∈ candidates, (q.key = p.key ↔ q = p) := fun q hq =>
    ⟨hp q hq, fun he => he ▸ rfl⟩
  split
  next hhas =>
    obtain ⟨q, hq, hparts⟩ := PathSet.has_iff.mp hhas
    obtain ⟨hpc, hpv⟩ := (h.kept q).mp hq
    obtain rfl := hp q hpc (Path.key_eq_iff.mpr hparts)
    constructor
    · intro r
      rw [Ascending.mem_filter, h.kept, Option.or_eq_none_iff, Exclusion.when_eq_none_iff,
        decide_eq_false_iff_not, and_assoc]
      refine and_congr_right fun hr => and_congr_right fun _ => ?_
      rw [bne_iff_ne, ne_eq, hkey r hr]
    · intro r e'
      rw [Ascending.mem_insert, h.removed, Prod.mk.injEq, Option.or_eq_some_iff,
        Exclusion.when_eq_some_iff, decide_eq_true_iff]
      constructor
      · rintro (⟨rfl, rfl⟩ | ⟨⟨hr, hv⟩, -⟩)
        · exact ⟨hpc, .inr ⟨hpv, rfl, rfl⟩⟩
        · exact ⟨hr, .inl hv⟩
      · rintro ⟨hr, hv | ⟨-, rfl, rfl⟩⟩
        · refine .inr ⟨⟨hr, hv⟩, fun hk => ?_⟩
          rw [(hkey r hr).mp hk, hpv] at hv
          exact absurd hv (by simp)
        · exact .inl ⟨rfl, rfl⟩
  next hhas =>
    -- A candidate that is listed and not kept has a verdict already.
    refine h.congr fun q hq => ?_
    cases hv : verdict q with
    | some e' => rfl
    | none =>
      have hne : q ≠ p := by
        rintro rfl
        exact hhas (PathSet.has_of_mem ((h.kept q).mpr ⟨hq, hv⟩))
      simp [Exclusion.when, hne]

/-- **A stage with a list** catches the kept files that are listed. -/
theorem Accounts.dropListed (h : x.Accounts candidates verdict) (e : Exclusion)
    {paths : List Path} (hp : ∀ p ∈ paths, ∀ q ∈ candidates, q.key = p.key → q = p) :
    (x.dropListed e paths).Accounts candidates fun q =>
      (verdict q).or (e.when (decide (q ∈ paths))) := by
  induction paths generalizing x verdict with
  | nil => exact h.congr fun q _ => by simp [Exclusion.when]
  | cons p paths ih =>
    have hstep : x.dropListed e (p :: paths) = (x.dropListed e [p]).dropListed e paths := rfl
    rw [hstep]
    have hone := h.dropOne e (hp p List.mem_cons_self)
    refine (ih hone fun r hr => hp r (List.mem_cons_of_mem _ hr)).congr fun q _ => ?_
    cases verdict q with
    | some e' => rfl
    | none => by_cases hq : q = p <;> simp [Exclusion.when, hq]

end Screened

/-! ## 3. Screening by the verdict

The three stages one after another, each with its lemma. -/

namespace Screen

/-- A walk yields normal forms. -/
theorem isNormal_of_mem_ignored {p : Path} (h : p ∈ s.ignored t) : p.IsNormal := by
  obtain ⟨root, -, -, hwalk⟩ := mem_ignored_iff.mp h
  exact Tree.isNormal_of_mem_walk hwalk

/-- **Screening keeps and removes by the verdict.** -/
theorem run_accounts (hn : candidates.AllNormal) :
    (s.run t candidates).Accounts candidates (s.verdict t) := by
  have hfresh : Screened.Accounts ⟨candidates, .empty⟩ candidates fun _ => none :=
    Screened.accounts_fresh fun _ _ => rfl
  have hlisted := hfresh.dropUnless .blacklisted fun p => !s.blacklist.has p
  have hspelled : ∀ p ∈ s.ignored t, ∀ q ∈ candidates, q.key = p.key → q = p :=
    fun p hp q hq hk => (hn q hq).eq_of_key (isNormal_of_mem_ignored hp) hk
  have houtside := hlisted.dropListed .ignoredSubtree hspelled
  unfold Screen.run
  cases hc : s.changed with
  | none =>
    refine houtside.congr fun p _ => ?_
    simp [verdict, hc, Exclusion.when]
  | some changed =>
    refine (houtside.dropUnless .notChanged changed.has).congr fun p _ => ?_
    simp [verdict, hc, Option.or_assoc]

theorem kept_subset (hn : candidates.AllNormal) {p : Path} (h : p ∈ (s.run t candidates).kept) :
    p ∈ candidates :=
  (((run_accounts hn).kept p).mp h).1

/-! ## 4. What follows

Everything about screening that is independent of how it is done: what the verdict depends on,
and that sets may be screened together or apart. -/

/-- What is ignored, and nothing else about the walks, goes into the verdict. -/
theorem verdict_congr {s' : Screen} {p : Path} (hblacklist : s'.blacklist = s.blacklist)
    (hchanged : s'.changed = s.changed) (h : s'.Ignores t p ↔ s.Ignores t p) :
    s'.verdict t p = s.verdict t p := by
  rw [← mem_ignored_iff, ← mem_ignored_iff] at h
  simp only [verdict, hblacklist, hchanged, h]

/-- Only the members of the ignore roots matter. -/
theorem verdict_congr_ignoreRoots {roots : List Path}
    (h : ∀ root, root ∈ roots ↔ root ∈ s.ignoreRoots) (p : Path) :
    ({ s with ignoreRoots := roots } : Screen).verdict t p = s.verdict t p := by
  have hign : ({ s with ignoreRoots := roots } : Screen).Ignores t p ↔ s.Ignores t p := by
    simp only [Ignores, h]
  exact verdict_congr rfl rfl hign

end Screen

namespace Screened

/-- What was made of two sets together. -/
def union (x y : Screened) : Screened :=
  ⟨x.kept.union y.kept, x.removed.insertAll y.removed.toList⟩

/-- What two sets account for, they account for together, where they share candidates as well.
-/
theorem Accounts.union {x y : Screened} {verdict : Path → Option Exclusion} {a b : PathSet}
    (hx : x.Accounts a verdict) (hy : y.Accounts b verdict) (ha : a.AllNormal)
    (hb : b.AllNormal) : (x.union y).Accounts (a.union b) verdict where
  kept p := by
    have hxn : x.kept.AllNormal := fun q hq => ha q ((hx.kept q).mp hq).1
    have hyn : y.kept.AllNormal := fun q hq => hb q ((hy.kept q).mp hq).1
    rw [Screened.union, PathSet.mem_union hxn hyn, PathSet.mem_union ha hb, hx.kept, hy.kept,
      or_and_right]
  removed p e := by
    have hapart : KeysTellApart (fun r : Path × Exclusion => r.1.key) fun r =>
        r ∈ x.removed ∨ r ∈ y.removed := by
      rintro ⟨q, eq⟩ ⟨r, er⟩ hq hr hk
      rw [hx.removed, hy.removed, ← or_and_right] at hq hr
      have hqr : q = r :=
        (hq.1.elim (ha q) (hb q)).eq_of_key (hr.1.elim (ha r) (hb r)) hk
      subst hqr
      rw [Option.some.inj (hq.2.symm.trans hr.2)]
    rw [Screened.union, Ascending.mem_insertAll hapart, Ascending.mem_toList,
      PathSet.mem_union ha hb, hx.removed, hy.removed, or_and_right]

end Screened

/-- **The law of screening.**  A candidate is kept or removed for exactly one reason, namely
the first that applies, and nothing else is kept or removed.  So the order and repetition of
ignore roots do not matter, sets may be screened apart, and what was kept is kept again. -/
theorem screening_law (t : Tree) (s : Screen) (candidates : PathSet)
    (hn : candidates.AllNormal) :
    (∀ p ∈ candidates,
      (p ∈ (s.run t candidates).kept ∧ ∀ e, (p, e) ∉ (s.run t candidates).removed) ∨
        (p ∉ (s.run t candidates).kept ∧ ∃! e, (p, e) ∈ (s.run t candidates).removed)) ∧
    (∀ p, (p, .blacklisted) ∈ (s.run t candidates).removed ↔
      p ∈ candidates ∧ s.blacklist.has p = true) ∧
    (∀ p, (p, .ignoredSubtree) ∈ (s.run t candidates).removed ↔
      p ∈ candidates ∧ s.blacklist.has p = false ∧ s.Ignores t p) ∧
    (∀ p, (p, .notChanged) ∈ (s.run t candidates).removed ↔
      p ∈ candidates ∧ s.blacklist.has p = false ∧ ¬s.Ignores t p ∧
        ∃ changed, s.changed = some changed ∧ changed.has p = false) ∧
    (∀ p, p ∈ (s.run t candidates).kept ↔
      p ∈ candidates ∧ s.blacklist.has p = false ∧ ¬s.Ignores t p ∧
        ∀ changed, s.changed = some changed → changed.has p = true) ∧
    (∀ roots : List Path, (∀ root, root ∈ roots ↔ root ∈ s.ignoreRoots) →
      ({ s with ignoreRoots := roots } : Screen).run t candidates = s.run t candidates) ∧
    (∀ others : PathSet, others.AllNormal →
      s.run t (candidates.union others) = (s.run t candidates).union (s.run t others)) ∧
    s.run t (s.run t candidates).kept = ⟨(s.run t candidates).kept, .empty⟩ := by
  have hrun := Screen.run_accounts (t := t) (s := s) hn
  refine ⟨?_, ?_, ?_, ?_, ?_, ?_, ?_, ?_⟩
  · intro p hp
    cases hv : s.verdict t p with
    | none =>
      refine .inl ⟨(hrun.kept p).mpr ⟨hp, hv⟩, fun e he => ?_⟩
      rw [hrun.removed, hv] at he
      exact absurd he.2 (by simp)
    | some e =>
      refine .inr ⟨fun hk => ?_, e, (hrun.removed p e).mpr ⟨hp, hv⟩, fun e' he' => ?_⟩
      · rw [hrun.kept, hv] at hk
        exact absurd hk.2 (by simp)
      · have hv' := ((hrun.removed p e').mp he').2
        exact Option.some.inj (hv'.symm.trans hv)
  · intro p
    rw [hrun.removed, Screen.verdict_eq_blacklisted_iff]
  · intro p
    rw [hrun.removed, Screen.verdict_eq_ignoredSubtree_iff]
  · intro p
    rw [hrun.removed, Screen.verdict_eq_notChanged_iff]
  · intro p
    rw [hrun.kept, Screen.verdict_eq_none_iff]
  · intro roots hroots
    exact (Screen.run_accounts hn).unique
      (hrun.congr fun p _ => (Screen.verdict_congr_ignoreRoots hroots p).symm)
  · intro others ho
    have hunion : (candidates.union others).AllNormal := fun p hp =>
      ((PathSet.mem_union hn ho).mp hp).elim (hn p) (ho p)
    exact (Screen.run_accounts hunion).unique (hrun.union (Screen.run_accounts ho) hn ho)
  · have hkept : (s.run t candidates).kept.AllNormal := fun p hp => hn p (Screen.kept_subset hn hp)
    exact (Screen.run_accounts hkept).unique
      (Screened.accounts_fresh fun p hp => ((hrun.kept p).mp hp).2)

namespace Example

/-- Three scripts in `src` and one in `src/vendor`. -/
def scripts : Tree where
  root := .directory (Utf8.encode "src")
    (.file (Utf8.encode "a.js") {} <| .file (Utf8.encode "b.js") {} <|
      .file (Utf8.encode "c.js") {} <|
      .directory (Utf8.encode "vendor") (.file (Utf8.encode "x.js") {} .empty) .empty)
    .empty

/-- All four scripts. -/
def found : PathSet :=
  .ofList [.ofString "/src/a.js", .ofString "/src/b.js", .ofString "/src/c.js",
    .ofString "/src/vendor/x.js"]

/-- `a.js` is on the blacklist, `vendor` is ignored, and `b.js` has not changed. -/
def screen : Screen where
  blacklist := .ofList [.ofString "/src/a.js"]
  ignoreRoots := [.ofString "/src/gone", .ofString "/src/vendor"]
  owns := fun _ => true
  changed := some <| .ofList [.ofString "/src/a.js", .ofString "/src/c.js",
    .ofString "/src/vendor/x.js"]

/-- One file for each of the four fates; one ignore root does not exist. -/
theorem screening_law_scripts :
    found.AllNormal ∧
      (.ofString "/src/a.js", .blacklisted) ∈ (screen.run scripts found).removed ∧
      (.ofString "/src/vendor/x.js", .ignoredSubtree) ∈ (screen.run scripts found).removed ∧
      (.ofString "/src/b.js", .notChanged) ∈ (screen.run scripts found).removed ∧
      .ofString "/src/c.js" ∈ (screen.run scripts found).kept := by
  have hn : found.AllNormal := by decide
  obtain ⟨-, hblack, hignored, hchanged, hkept, -⟩ := screening_law scripts screen found hn
  refine ⟨hn, (hblack _).mpr ?_, (hignored _).mpr ?_, (hchanged _).mpr ?_, (hkept _).mpr ?_⟩
  · exact ⟨by decide, by decide⟩
  · exact ⟨by decide, by decide, by decide⟩
  · exact ⟨by decide, by decide, by decide, _, rfl, by decide⟩
  · exact ⟨by decide, by decide, by decide, by rintro _ ⟨⟩; decide⟩

end Example

end LintRun
