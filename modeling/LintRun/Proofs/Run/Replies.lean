import LintRun.Proofs.Run.Protocol

/-!
# What a run is told

Every process of a run is answered by the runner, in the state that the processes before it
lead to (`replied_run`): no reply is made up, and none is that of another process.

That holds of entering a phase, of looking at the files, and of what every stepwise property
holds of, and so it holds of whole runs (`Action.Stagewise.run`).

The statement is a recursion over the events, in which the state moves on with each process
(`Replied`).  It is not part of `Causal`, which says what a run makes of replies; here it is
said where the replies in its record come from.  Both are proved for the same steps, so that an
honest action carries its causality with it.
-/

namespace LintRun

variable {σ α β : Type}

/-! ## 1. Replies among events

Entering a phase and writing a line leave the state of the runner alone. -/

namespace Runner

variable {runner : Runner σ} {s : σ}

/-- The replies among some events are those of the runner, in the states that it goes
through. -/
def Replied (runner : Runner σ) : σ → List Event → Prop
  | _, [] => True
  | s, .ran i reply :: later =>
    reply = (runner.answer i s).1 ∧ runner.Replied (runner.answer i s).2 later
  | s, .entered _ :: later => runner.Replied s later
  | s, .noted _ :: later => runner.Replied s later

/-- Events may be looked at in two parts, the second from the state that the first leads to. -/
theorem replied_append {before later : List Event} :
    runner.Replied s (before ++ later) ↔ runner.Replied s before ∧
      runner.Replied (runner.after s (before.filterMap Event.invocation?)) later := by
  induction before generalizing s with
  | nil => exact (and_iff_right trivial).symm
  | cons e before ih =>
    cases e with
    | ran i reply =>
      rw [List.cons_append, Replied, Replied, ih, and_assoc]
      rfl
    | entered phase => exact ih
    | noted line => exact ih

/-- **A reply** is that of the runner in the state that the processes before it lead to. -/
theorem Replied.reply_eq {before later : List Event} {i : Invocation} {reply : Reply}
    (h : runner.Replied s (before ++ .ran i reply :: later)) :
    reply = (runner.answer i (runner.after s (before.filterMap Event.invocation?))).1 :=
  (replied_append.mp h).2.1

/-- Lines need no reply. -/
theorem replied_noted (lines : List String) : runner.Replied s (lines.map .noted) := by
  induction lines with
  | nil => trivial
  | cons line lines ih => exact ih

end Runner

/-! ## 2. Honest actions

The second thing starts where the first has led to, which for a causal action is the state
after what it started: without that the events of the two could not be put together. -/

namespace Action

/-- **An action that reports what its runner tells it.** -/
structure Honest (a : Action σ α) : Prop extends a.Causal where
  replied (runner : Runner σ) (s : σ) : runner.Replied s (a.run runner s).events

theorem Honest.pure (a : α) : (Pure.pure a : Action σ α).Honest := ⟨.pure a, fun _ _ => trivial⟩

theorem Honest.enter (phase : Phase) : (enter phase : Action σ Unit).Honest :=
  ⟨.enter phase, fun _ _ => trivial⟩

theorem Honest.files : (files : Action σ Tree).Honest := ⟨.files, fun _ _ => trivial⟩

theorem Honest.noteAll (lines : List String) : (noteAll lines : Action σ Unit).Honest :=
  ⟨.noteAll lines, fun _ _ => Runner.replied_noted lines⟩

theorem Honest.start (i : Invocation) : (start i : Action σ _).Honest :=
  ⟨.start i, fun _ _ => ⟨rfl, trivial⟩⟩

/-- **One thing after another.**  The events of the second are replied to in the state that the
events of the first lead to. -/
theorem Honest.bind {a : Action σ α} {f : α → Action σ β} (ha : a.Honest)
    (hf : ∀ x, (f x).Honest) : (a >>= f).Honest where
  toCausal := ha.toCausal.bind fun x => (hf x).toCausal
  replied runner s := by
    rw [run_bind]
    refine Runner.replied_append.mpr ⟨ha.replied runner s, ?_⟩
    show runner.Replied (runner.after s (a.run runner s).started) _
    rw [← ha.state_eq]
    exact (hf _).replied runner _

theorem Honest.consult (i : Invocation) (lines : Except StartError Output → List String)
    (meaning : Except StartError Output → α) : (consult i lines meaning : Action σ α).Honest :=
  .bind (.start i) fun _ => .bind (.noteAll _) fun _ => .pure _

/-! ## 3. Properties that come from stages

Entering phases and looking at the files is done by runs and not by linting, so these two stand
beside `Stepwise` and not in it. -/

/-- **A property that comes from stages**: it comes from steps, and holds of entering a phase and
of looking at the files. -/
structure Stagewise (P : (α : Type) → Action σ α → Prop) : Prop extends Stepwise P where
  enter (phase : Phase) : P Unit (enter phase)
  files : P Tree files

/-- **Honesty comes from stages.** -/
theorem stagewise_honest : Stagewise fun α (a : Action σ α) => a.Honest where
  pure := .pure
  noteAll := .noteAll
  consult := .consult
  bind := .bind
  enter := .enter
  files := .files

variable {P : (α : Type) → Action σ α → Prop} (h : Stagewise P) (r : Registry)

include h

/-- One category is made of stages; an early return is a value that is given. -/
theorem Stagewise.runCategory (o : LintOptions) (changed : Option PathSet) (c : Category) :
    P _ (r.runCategory o changed c) := by
  rw [runCategory_eq]
  split
  · exact h.pure _
  · exact h.bind (h.enter _) fun _ => h.bind h.files fun _ => h.bind (h.enter _) fun _ =>
      h.bind (h.enter _) fun _ => h.bind (h.toStepwise.lint c o _) fun _ => h.pure _

/-- By induction on the row of categories. -/
theorem Stagewise.runCategories (o : LintOptions) (changed : Option PathSet)
    (cs : List Category) : P _ (r.runCategories o changed cs) := by
  induction cs with
  | nil => exact h.pure _
  | cons c cs ih =>
    exact h.bind (h.runCategory r o changed c) fun _ => h.bind ih fun _ => h.pure _

/-- **A whole run has the properties of its stages.** -/
theorem Stagewise.run (o : RunOptions) : P _ (r.run o) := by
  cases hselect : r.select o.categories with
  | error e =>
    unfold Registry.run
    rw [hselect]
    exact h.bind (h.enter _) fun _ => h.pure _
  | ok selected =>
    rw [run_eq r o hselect]
    refine h.bind (h.enter _) fun _ => h.bind (h.toStepwise.changedFor r o selected) fun given => ?_
    cases given with
    | error e => exact h.pure _
    | ok changed =>
      exact h.bind (h.runCategories r o.lint changed selected) fun _ =>
        h.bind (h.enter _) fun _ => h.bind (h.enter _) fun _ => h.pure _

end Action

/-- **Every process of a run** is answered by the runner, in the state that the processes before
it lead to. -/
theorem replied_run (r : Registry) (o : RunOptions) (runner : Runner σ) (s : σ) :
    runner.Replied s ((r.run o).run runner s).events :=
  (Action.stagewise_honest.run r o).replied runner s

end LintRun
