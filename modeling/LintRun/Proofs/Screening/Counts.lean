import LintRun.Proofs.Screening
import LintRun.Run.Report
import Mathlib.Algebra.Ring.Nat

/-!
# How many files each stage removes

Screening sorts the candidates by their verdicts, so the kept files and the files that a stage
removed are the candidates with one verdict, in the order of the candidates (`kept_run`,
`removedFor_run`).  The numbers in an outcome count these.

The numbers are read off the removals stage by stage; counting one removal after another comes
to the same (`counts_eq_tally`).  As no candidate is lost or counted twice, they add up to the
candidates that were not kept (`size_run`).

Two ways to count are compared.  The program goes through the removals once and adds one to the
number of the stage, which needs a table of numbers on the way; the numbers of an outcome are
given stage by stage.  The table has an invariant that speaks of an arbitrary function of the
stages (`Tally.Holds`), with entries for those stages only whose number is not zero; after all
removals the function is the count of the stage among them.  That entries with zero are absent
on both sides is what makes the two lists equal and not only alike.
-/

namespace LintRun

variable {t : Tree} {s : Screen} {candidates : PathSet}

/-! ## 1. The files that a stage removes

The removals of one stage are a set of paths in the order of all paths. -/

namespace Screened

/-- The files that a stage removed. -/
def removedFor (x : Screened) (e : Exclusion) : List Path :=
  (x.removed.toList.filter (·.2 = e)).map Prod.fst

theorem mem_removedFor {x : Screened} {e : Exclusion} {p : Path} :
    p ∈ x.removedFor e ↔ (p, e) ∈ x.removed := by
  simp only [removedFor, List.mem_map, List.mem_filter, decide_eq_true_eq]
  constructor
  · rintro ⟨⟨q, _⟩, ⟨hmem, rfl⟩, rfl⟩
    exact hmem
  · intro hmem
    exact ⟨(p, e), ⟨hmem, rfl⟩, rfl⟩

theorem pairwise_removedFor (x : Screened) (e : Exclusion) :
    (x.removedFor e).Pairwise fun p q => p.key < q.key :=
  List.pairwise_map.mpr (x.removed.ascending.filter _)

/-- The number of a stage counts its files. -/
theorem removedBy_eq (x : Screened) (e : Exclusion) : x.removedBy e = (x.removedFor e).length := by
  rw [removedBy, removedFor, List.length_map]

/-- Stages that removed nothing are left out of a list of numbers, and have the number zero. -/
theorem lookup_filter_removedBy (x : Screened) (e : Exclusion) (es : List Exclusion) :
    (((es.map fun e => (e, x.removedBy e)).filter (·.2 ≠ 0)).lookup e).getD 0 =
      if e ∈ es then x.removedBy e else 0 := by
  induction es with
  | nil => rfl
  | cons e' es ih =>
    rw [List.map_cons, List.filter_cons]
    by_cases hzero : x.removedBy e' = 0
    · rw [if_neg (by simpa using hzero), ih]
      by_cases he : e = e'
      · rw [he, hzero, ite_self, ite_self]
      · simp only [List.mem_cons, he, false_or]
    · rw [if_pos (by simpa using hzero), List.lookup_cons]
      by_cases he : e = e'
      · rw [he, beq_self_eq_true, if_pos List.mem_cons_self]
        rfl
      · rw [beq_false_of_ne he]
        simp only [List.mem_cons, he, false_or]
        exact ih

/-- The number for a stage in the numbers of all stages. -/
theorem lookup_counts (x : Screened) (e : Exclusion) :
    (x.counts.lookup e).getD 0 = x.removedBy e := by
  have hall : e ∈ Exclusion.all := by cases e <;> decide
  rw [counts, lookup_filter_removedBy, if_pos hall]

end Screened

namespace Screen

/-- **The kept files** are the candidates without a verdict. -/
theorem kept_run (hn : candidates.AllNormal) :
    (s.run t candidates).kept = candidates.filter fun p => s.verdict t p = none :=
  Ascending.ext_mem fun p => by
    rw [(run_accounts hn).kept, Ascending.mem_filter, decide_eq_true_eq]

/-- **The files that a stage removes** are the candidates with its verdict. -/
theorem removedFor_run (hn : candidates.AllNormal) (e : Exclusion) :
    (s.run t candidates).removedFor e =
      candidates.toList.filter fun p => s.verdict t p = some e := by
  have hset : (⟨_, (s.run t candidates).pairwise_removedFor e⟩ : PathSet) =
      candidates.filter fun p => s.verdict t p = some e :=
    Ascending.ext_mem fun p => by
      show p ∈ Screened.removedFor _ e ↔ _
      rw [Screened.mem_removedFor, (run_accounts hn).removed, Ascending.mem_filter,
        decide_eq_true_eq]
  exact congrArg Ascending.toList hset

end Screen

/-- How many files of an outcome a stage removed. -/
def Outcome.excludedBy (x : Outcome) (e : Exclusion) : Nat := (x.excluded.lookup e).getD 0

/-! ## 2. Counting one removal after another

Stages are ordered as they are tried, which is the order in which their numbers are listed. -/

/-- Where a stage stands among the stages. -/
def Exclusion.rank : Exclusion → Nat
  | .blacklisted => 0
  | .ignoredSubtree => 1
  | .notChanged => 2

instance : OrderedKeys Nat := .ofLinear

/-- How many removals of each stage were counted, in the order of the stages. -/
abbrev Tally := Ascending fun entry : Exclusion × Nat => entry.1.rank

namespace Tally

/-- The number of a stage, zero if none of its removals was counted. -/
def number (t : Tally) (e : Exclusion) : Nat := (t.toList.lookup e).getD 0

/-- One removal more. -/
def add (t : Tally) (e : Exclusion) : Tally := t.insert (e, t.number e + 1)

/-- Removals counted one after another. -/
def ofReasons (reasons : List Exclusion) : Tally := reasons.foldl add .empty

/-- **The invariant of counting**: there is an entry for each stage with removals so far, and
it has their number. -/
def Holds (t : Tally) (f : Exclusion → Nat) : Prop := ∀ e n, (e, n) ∈ t ↔ n ≠ 0 ∧ n = f e

variable {t : Tally} {f : Exclusion → Nat}

theorem rank_injective {e e' : Exclusion} (h : e.rank = e'.rank) : e = e' := by
  cases e <;> cases e' <;> simp [Exclusion.rank] at h ⊢

/-- The table tells the number of each stage, zero where there is no entry. -/
theorem Holds.number_eq (h : t.Holds f) (e : Exclusion) : t.number e = f e := by
  unfold number
  cases hlookup : t.toList.lookup e with
  | none =>
    have habsent := List.lookup_eq_none_iff.mp hlookup
    by_contra hne
    have hmem : (e, f e) ∈ t := (h e (f e)).mpr ⟨fun hzero => hne hzero.symm, rfl⟩
    have hother := habsent _ hmem
    simp at hother
  | some n =>
    obtain ⟨before, after, hsplit, -⟩ := List.lookup_eq_some_iff.mp hlookup
    have hmem : (e, n) ∈ t := by
      show (e, n) ∈ t.toList
      rw [hsplit]
      exact List.mem_append_right _ List.mem_cons_self
    exact ((h e n).mp hmem).2

/-- **One step of counting.** -/
theorem Holds.add (h : t.Holds f) (e : Exclusion) :
    (t.add e).Holds fun e' => f e' + if e' = e then 1 else 0 := by
  intro e' n
  rw [Tally.add, Ascending.mem_insert, h.number_eq, h e' n, Prod.mk.injEq]
  by_cases he : e' = e
  · subst he
    simp only [if_true, ne_eq, not_true_eq_false, and_false, or_false, true_and]
    omega
  · have hrank : e'.rank ≠ e.rank := fun hr => he (rank_injective hr)
    simp only [he, false_and, false_or, hrank, ne_eq, not_false_eq_true, and_true, if_false,
      Nat.add_zero]

/-- **All steps of counting.** -/
theorem Holds.addAll (h : t.Holds f) (reasons : List Exclusion) :
    Holds (reasons.foldl Tally.add t) fun e => f e + reasons.count e := by
  induction reasons generalizing t f with
  | nil => exact h
  | cons e reasons ih =>
    intro e' n
    have hcount : (f e' + if e' = e then 1 else 0) + reasons.count e' =
        f e' + (e :: reasons).count e' := by
      rw [List.count_cons]
      by_cases he : e = e'
      · simp only [he, if_true, beq_self_eq_true]
        omega
      · have he' : e' ≠ e := fun h => he h.symm
        simp only [he', if_false, beq_false_of_ne he]
        simp
    show _ ↔ n ≠ 0 ∧ n = f e' + (e :: reasons).count e'
    rw [← hcount]
    exact ih (h.add e) e' n

theorem holds_empty : Holds .empty fun _ => 0 :=
  fun _ _ => ⟨fun hmem => absurd hmem Ascending.not_mem_empty, fun h => absurd h.2 h.1⟩

theorem mem_ofReasons {reasons : List Exclusion} {e : Exclusion} {n : Nat} :
    (e, n) ∈ ofReasons reasons ↔ n ≠ 0 ∧ n = reasons.count e := by
  have hall : (e, n) ∈ ofReasons reasons ↔ n ≠ 0 ∧ n = 0 + reasons.count e :=
    holds_empty.addAll reasons e n
  rwa [Nat.zero_add] at hall

end Tally

namespace Screened

variable (x : Screened)

theorem removedBy_eq_count (e : Exclusion) :
    x.removedBy e = (x.removed.toList.map Prod.snd).count e := by
  rw [removedBy, List.count, List.countP_map, List.countP_eq_length_filter]
  congr 2

/-- The numbers of an outcome have an entry for each stage that removed something. -/
theorem mem_counts {e : Exclusion} {n : Nat} :
    (e, n) ∈ x.counts ↔ n ≠ 0 ∧ n = x.removedBy e := by
  have hall : e ∈ Exclusion.all := by cases e <;> decide
  simp only [counts, List.mem_filter, List.mem_map, Prod.mk.injEq, decide_eq_true_eq]
  constructor
  · rintro ⟨⟨_, -, rfl, rfl⟩, hne⟩
    exact ⟨hne, rfl⟩
  · rintro ⟨hne, rfl⟩
    exact ⟨⟨e, hall, rfl, rfl⟩, hne⟩

theorem pairwise_counts : x.counts.Pairwise fun a b => a.1.rank < b.1.rank := by
  have hall : Exclusion.all.Pairwise fun e e' => e.rank < e'.rank := by decide
  exact List.Pairwise.filter _ (List.pairwise_map.mpr hall)

/-- **Counting one removal after another** comes to the numbers of the stages. -/
theorem counts_eq_tally :
    x.counts = (Tally.ofReasons (x.removed.toList.map Prod.snd)).toList := by
  have hsame : (⟨x.counts, x.pairwise_counts⟩ : Tally) =
      Tally.ofReasons (x.removed.toList.map Prod.snd) :=
    Ascending.ext_mem fun ⟨e, n⟩ => by
      show (e, n) ∈ x.counts ↔ _
      rw [x.mem_counts, Tally.mem_ofReasons, x.removedBy_eq_count]
  exact congrArg Ascending.toList hsame

/-- Leaving out zeros does not change the sum. -/
theorem sum_counts : (x.counts.map Prod.snd).sum = (Exclusion.all.map x.removedBy).sum := by
  have hdrop (entries : List (Exclusion × Nat)) :
      ((entries.filter (·.2 ≠ 0)).map Prod.snd).sum = (entries.map Prod.snd).sum := by
    induction entries with
    | nil => rfl
    | cons entry entries ih =>
      rw [List.filter_cons]
      by_cases hzero : entry.2 = 0
      · rw [if_neg (by simpa using hzero), ih, List.map_cons, List.sum_cons, hzero, Nat.zero_add]
      · rw [if_pos (by simpa using hzero), List.map_cons, List.map_cons, List.sum_cons,
          List.sum_cons, ih]
  rw [counts, hdrop, List.map_map]
  rfl

end Screened

/-! ## 3. Nothing is lost

A classification puts every candidate into one of four classes, and their sizes add up;
screening is such a classification. -/

/-- Every path counts once, by what a classification says of it. -/
theorem length_eq_add_sum (f : Path → Option Exclusion) (paths : List Path) :
    paths.length = (paths.filter fun p => f p = none).length +
      (Exclusion.all.map fun e => (paths.filter fun p => f p = some e).length).sum := by
  induction paths with
  | nil => rfl
  | cons p paths ih =>
    simp only [Exclusion.all, List.map_cons, List.map_nil, List.sum_cons, List.sum_nil,
      List.filter_cons] at ih ⊢
    cases hp : f p with
    | none =>
      simp only [decide_true, if_true, List.length_cons, reduceCtorEq, decide_false,
        Bool.false_eq_true, if_false]
      omega
    | some e =>
      cases e
      all_goals
        simp only [decide_true, if_true, List.length_cons, reduceCtorEq, decide_false,
          Bool.false_eq_true, if_false, Option.some.injEq]
        omega

/-- **The candidates are the kept files and those that each stage removed.** -/
theorem Screen.size_run (hn : candidates.AllNormal) :
    candidates.size = (s.run t candidates).kept.toList.length +
      ((s.run t candidates).counts.map Prod.snd).sum := by
  have hremoved (e : Exclusion) : (s.run t candidates).removedBy e =
      (candidates.toList.filter fun p => s.verdict t p = some e).length := by
    rw [Screened.removedBy_eq, removedFor_run hn]
  rw [Screened.sum_counts, kept_run hn, Ascending.toList_filter, Ascending.size,
    length_eq_add_sum (s.verdict t) candidates.toList, funext hremoved]

end LintRun
