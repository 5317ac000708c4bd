import LintRun.Proofs.Registry.Selection
import LintRun.Proofs.Run.Protocol

/-!
# The phases of a run, and of one run after another

Whoever runs a registry is in some phase when a run begins, namely where the run before it
ended; that is `done`, or `selecting` if it ended early.  A run goes through its phases anew:
a category that is examined adds one round (`phases_runCategories`), a category that is not
adds none, and linting enters no phase (`quiet_lint`), so that whatever it starts is started
while dispatching.

`Phase.Allows` says of events in a row what may be started in which phase; it is put together
like the events themselves (`allows_append`).  `phase_law` is about any number of runs on any
state of the world, with changes between them.

The argument for a whole session is in three steps.  First, each piece of a run either is
quiet, so that what it starts is started in the phase that the piece finds
(`allows_of_no_phases`), or is a category, which enters its three phases before it lints
(`events_examine`).  Second, a row of categories is one after another, by induction over the
row.  Third, a session is one run after another, and a run begins by entering `selecting`,
whatever it finds; so nothing need be known of the phase that a session is in when a call
comes (`session_congr_phase`), and the law for one run is the law for each.
-/

namespace LintRun

variable {σ α β : Type}

/-! ## 1. Phases and what is started in them -/

/-- The phases that were entered, in order. -/
def Finished.phases (f : Finished σ α) : List Phase := f.events.filterMap Event.phase?

namespace Phase

variable {p : Phase} {allowed : Phase → Invocation → Prop}

/-- The phase after events in a row: that after the later ones, begun from that after the
earlier. -/
theorem after_append (p : Phase) (before later : List Event) :
    p.after (before ++ later) = (p.after before).after later := by
  simp only [after, List.filterMap_append, List.getLast?_append]
  cases (later.filterMap Event.phase?).getLast? with
  | none => rfl
  | some q => rfl

/-- Events that start nothing but what is allowed in the phase they find. -/
def Allows (allowed : Phase → Invocation → Prop) : Phase → List Event → Prop
  | _, [] => True
  | p, e :: later =>
    (∀ i, e.invocation? = some i → allowed p i) ∧ Allows allowed (p.after [e]) later

/-- Entering a phase starts nothing. -/
@[simp] theorem allows_entered {q : Phase} {later : List Event} :
    Allows allowed p (.entered q :: later) ↔ Allows allowed q later := by
  refine and_iff_right fun i hi => ?_
  cases hi

/-- **Put together like the events**: the later ones have to be allowed from the phase on that
the
earlier ones end in. -/
theorem allows_append {before later : List Event} :
    Allows allowed p (before ++ later) ↔
      Allows allowed p before ∧ Allows allowed (p.after before) later := by
  induction before generalizing p with
  | nil => exact (and_iff_right trivial).symm
  | cons e before ih =>
    rw [List.cons_append, Allows, Allows, ih, ← after_append, and_assoc]
    rfl

/-- **What is started** anywhere among the events is allowed in the phase there then is. -/
theorem Allows.started {before later : List Event} {i : Invocation} {reply : Reply}
    (h : Allows allowed p (before ++ .ran i reply :: later)) : allowed (p.after before) i :=
  (allows_append.mp h).2.1 i rfl

/-- What is allowed by a narrower rule is allowed by a wider one. -/
theorem Allows.mono {allowed' : Phase → Invocation → Prop} {events : List Event}
    (h : Allows allowed p events) (hsub : ∀ p i, allowed p i → allowed' p i) :
    Allows allowed' p events := by
  induction events generalizing p with
  | nil => trivial
  | cons e later ih => exact ⟨fun i hi => hsub p i (h.1 i hi), ih h.2⟩

/-- Events that enter no phase leave the phase as it was. -/
theorem after_of_no_phases {events : List Event} (h : events.filterMap Event.phase? = []) :
    p.after events = p := by
  rw [after, h]
  rfl

/-- Without a change of phase all is started in the phase there is. -/
theorem allows_of_no_phases {events : List Event} (h : events.filterMap Event.phase? = [])
    (hall : ∀ i ∈ events.filterMap Event.invocation?, allowed p i) :
    Allows allowed p events := by
  induction events with
  | nil => trivial
  | cons e later ih =>
    have hsplit : ([e] ++ later).filterMap Event.phase? = [] := h
    rw [List.filterMap_append, List.append_eq_nil_iff] at hsplit
    refine ⟨fun i hi => hall i (List.mem_filterMap.mpr ⟨e, List.mem_cons_self, hi⟩), ?_⟩
    rw [after_of_no_phases hsplit.1]
    refine ih hsplit.2 fun i hi => hall i ?_
    obtain ⟨e', he', hi⟩ := List.mem_filterMap.mp hi
    exact List.mem_filterMap.mpr ⟨e', List.mem_cons_of_mem e he', hi⟩

end Phase

/-! ## 2. Actions that enter no phase

The notes, the starts and the reading of the tree that linting is made of enter no phase.
So quiet actions are shown to be closed under putting together, and linting is one of them
because it is put together from such parts. -/

namespace Action

/-- An action that enters no phase. -/
def Quiet (a : Action σ α) : Prop := ∀ runner s, (a.run runner s).phases = []

/-- One action and then another: the phases of the first, and then those of the second. -/
theorem phases_bind (a : Action σ α) (f : α → Action σ β) (runner : Runner σ) (s : σ) :
    ((a >>= f).run runner s).phases =
      (a.run runner s).phases ++
        ((f (a.run runner s).value).run runner (a.run runner s).state).phases :=
  List.filterMap_append

theorem Quiet.pure (a : α) : (Pure.pure a : Action σ α).Quiet := fun _ _ => rfl

theorem Quiet.bind {a : Action σ α} {f : α → Action σ β} (ha : a.Quiet)
    (hf : ∀ x, (f x).Quiet) : (a >>= f).Quiet := by
  intro runner s
  rw [phases_bind, ha, hf]
  rfl

theorem Quiet.noteAll (lines : List String) : (noteAll lines : Action σ Unit).Quiet := by
  intro runner s
  simp [Finished.phases, List.filterMap_map, Function.comp_def, Event.phase?]

theorem Quiet.consult (i : Invocation) (lines : Except StartError Output → List String)
    (meaning : Except StartError Output → α) : (consult i lines meaning : Action σ α).Quiet :=
  .bind (fun _ _ => rfl) fun _ => .bind (.noteAll _) fun _ => .pure _

/-- Quiet actions are closed under everything that linting is put together from. -/
theorem stepwise_quiet : Stepwise fun α (a : Action σ α) => a.Quiet :=
  ⟨.pure, .noteAll, .consult, .bind⟩

end Action

section Linting

variable (c : Category) (o : LintOptions) (fix : Bool)

/-- **Linting enters no phase.** -/
theorem quiet_lint (files : PathSet) : (lint c o files : Action σ Status).Quiet :=
  Action.stepwise_quiet.lint c o files

/-- A tool that has run has a result; it was not skipped for whatever reason. -/
theorem not_skipped_runTool (files : List Path) (reason : SkipReason) (runner : Runner σ) (s : σ) :
    ((runTool c fix files).run runner s).value ≠ .skipped reason := by
  unfold runTool
  cases c.mode with
  | batch =>
    show ((lintAll c fix files).run runner s).value ≠ _
    rw [lintAll_eq, Action.value_consult]
    cases (runner.answer (c.tool.invocation fix files) s).1.result with
    | error e => exact nofun
    | ok output =>
      show (if output.succeeded then _ else _ : Status) ≠ _
      split
      · exact nofun
      · exact nofun
  | perFile =>
    show (if _ then _ else _ : Status) ≠ _
    split
    · exact nofun
    · exact nofun

/-- Linting knows nothing of changes. -/
theorem lint_ne_noChangedFiles (files : PathSet) (runner : Runner σ) (s : σ) :
    ((lint c o files).run runner s).value ≠ .skipped .noChangedFiles := by
  rw [lint_eq]
  show ((c.lintQuietly o files.toList).run runner s).value ≠ _
  unfold Category.lintQuietly
  split
  · exact nofun
  · exact not_skipped_runTool c o.fix files.toList _ runner s

end Linting

/-! ## 3. Categories

Whether a category was examined can be told from its outcome: it was unless it is said to
have had no changed files.  Linting itself never says so (`lint_ne_noChangedFiles`), hence the
count of examined outcomes is the count of rounds. -/

/-- Whether a category was examined, be there files or not. -/
def Outcome.examined (x : Outcome) : Bool := decide (x.status ≠ .skipped .noChangedFiles)

/-- The phases of a category that is examined. -/
def Phase.round : List Phase := [.discovering, .filtering, .dispatching]

/-- Tools and fixers of some categories, started while dispatching. -/
def Dispatches (cs : List Category) (fix : Bool) (p : Phase) (i : Invocation) : Prop :=
  p = .dispatching ∧ ∃ c ∈ cs, ∃ files, c.StartsOver fix files i

section Categories

variable (r : Registry) (o : LintOptions) (changed : Option PathSet) (runner : Runner σ) (s : σ)

/-- The events of a category that is examined: a round, and then those of linting. -/
theorem events_examine (c : Category) :
    ((r.examine o changed c).run runner s).events =
      Phase.round.map .entered ++ ((lint c o ((r.screen c changed).run (runner.files s)
        (c.candidates (runner.files s))).kept).run runner s).events := by
  show [_] ++ ([] ++ ([_] ++ ([_] ++ (_ ++ [])))) = _
  rw [List.append_nil]
  rfl

/-- **One step**: a category adds a round if it is examined, and nothing otherwise. -/
theorem phases_runCategory (c : Category) :
    ((r.runCategory o changed c).run runner s).phases =
      if ((r.runCategory o changed c).run runner s).value.examined then Phase.round else [] := by
  rw [runCategory_eq]
  split
  · rfl
  · have hexamined : ((r.examine o changed c).run runner s).value.examined = true :=
      decide_eq_true (lint_ne_noChangedFiles c o _ runner s)
    rw [hexamined, Finished.phases, events_examine, List.filterMap_append]
    exact congrArg (Phase.round ++ ·) (quiet_lint c o _ runner s)

/-- **One step**: what a category starts is started while dispatching. -/
theorem allows_runCategory {c : Category} {cs : List Category} (hc : c ∈ cs) (p : Phase) :
    Phase.Allows (Dispatches cs o.fix) p ((r.runCategory o changed c).run runner s).events := by
  rw [runCategory_eq]
  split
  · trivial
  · rw [events_examine, Phase.round]
    simp only [List.map_cons, List.map_nil, List.cons_append, List.nil_append,
      Phase.allows_entered]
    refine Phase.allows_of_no_phases (quiet_lint c o _ runner s) fun i hi => ⟨rfl, c, hc, ?_⟩
    rw [← Finished.started, started_lint] at hi
    obtain ⟨given, -, hstart⟩ := c.startsOver_of_mem_starts o hi
    exact ⟨given, hstart⟩

/-- **A row of categories** goes through a round for each that is examined. -/
theorem phases_runCategories (cs : List Category) :
    ((r.runCategories o changed cs).run runner s).phases =
      (List.replicate (((r.runCategories o changed cs).run runner s).value.countP
        Outcome.examined) Phase.round).flatten := by
  induction cs generalizing s with
  | nil => rfl
  | cons c cs ih =>
    have hphases : ((r.runCategories o changed (c :: cs)).run runner s).phases =
        ((r.runCategory o changed c).run runner s).phases ++
          ((r.runCategories o changed cs).run runner
            ((r.runCategory o changed c).run runner s).state).phases := by
      rw [Registry.runCategories, Action.phases_bind, Action.phases_bind]
      exact congrArg (_ ++ ·) (List.append_nil _)
    rw [hphases, phases_runCategory, ih, value_runCategories_cons,
      ← (causal_runCategory r o changed c).state_eq]
    cases hx : ((r.runCategory o changed c).run runner s).value.examined with
    | true =>
      rw [List.countP_cons_of_pos hx, List.replicate_succ, List.flatten_cons]
      rfl
    | false =>
      rw [List.countP_cons_of_neg (by rw [hx]; exact Bool.false_ne_true)]
      rfl

/-- **A row of categories** starts its tools and fixers while dispatching, in whatever phase
the row
begins. -/
theorem allows_runCategories {cs ds : List Category} (h : cs ⊆ ds) (p : Phase) :
    Phase.Allows (Dispatches ds o.fix) p ((r.runCategories o changed cs).run runner s).events := by
  induction cs generalizing s p with
  | nil => trivial
  | cons c cs ih =>
    obtain ⟨hc, hcs⟩ := List.cons_subset.mp h
    show Phase.Allows _ p (_ ++ (_ ++ []))
    rw [List.append_nil, Phase.allows_append]
    exact ⟨allows_runCategory r o changed runner s hc p, ih _ hcs _⟩

end Categories

/-! ## 4. One run -/

section Runs

variable (r : Registry) (o : RunOptions)

/-- Asking for the changes enters no phase: the listing command is started while selecting. -/
theorem quiet_changedFor (selected : List Category) :
    (r.changedFor o selected : Action σ _).Quiet :=
  Action.stepwise_quiet.changedFor r o selected

/-- What a run may start, and in which phase: the listing command while selecting, and the
tools and fixers of its categories while dispatching. -/
def Registry.MayRun (p : Phase) (i : Invocation) : Prop :=
  i = r.vcs.invocation r.sourceRoot ∧ p = .selecting ∨ Dispatches r.categories o.lint.fix p i

variable {r o}

/-- A run for a category that there is not has entered one phase and done nothing else. -/
theorem events_of_unknown {e : RegistryError} (h : r.select o.categories = .error e)
    (runner : Runner σ) (s : σ) : ((r.run o).run runner s).events = [.entered .selecting] := by
  unfold Registry.run
  rw [h]
  rfl

/-- The events of a run over some categories: the listing, and then those of what it goes by. -/
theorem events_of_selected {selected : List Category} (h : r.select o.categories = .ok selected)
    (runner : Runner σ) (s : σ) :
    ((r.run o).run runner s).events =
      .entered .selecting :: (((r.changedFor o selected).run runner s).events ++
        ((r.runGiven o selected (r.changedGiven o selected (r.listing runner s))).run runner
          (runner.after s (r.lead o selected))).events) := by
  have hvalue : ((r.changedFor o selected).run runner s).value =
      r.changedGiven o selected (r.listing runner s) := value_changedFor r o selected runner s
  have hstarted := started_changedFor r o selected runner s
  rw [run_eq r o h, ← hvalue, ← hstarted, ← (causal_changedFor r o selected).state_eq]
  rfl

/-- A run that goes by a listing, or by none: a round for each category that is examined, and
the
two phases at the end. -/
theorem phases_runGiven (selected : List Category) (changed : Option PathSet)
    (runner : Runner σ) (s : σ) :
    ((r.runGiven o selected (.ok changed)).run runner s).phases =
      (List.replicate (((r.runCategories o.lint changed selected).run runner s).value.countP
        Outcome.examined) Phase.round).flatten ++ [.aggregating, .done] := by
  rw [Registry.runGiven, Action.phases_bind, phases_runCategories]
  rfl

/-- **The phases of a run**: a round for each category that is examined, if it is not ended
early. -/
theorem phases_run (runner : Runner σ) (s : σ) :
    ((r.run o).run runner s).phases =
      match ((r.run o).run runner s).value with
      | .ok report => .selecting ::
          (List.replicate (report.outcomes.countP Outcome.examined) Phase.round).flatten ++
            [.aggregating, .done]
      | .error _ => [.selecting] := by
  cases hselect : r.select o.categories with
  | error e =>
    rw [Finished.phases, events_of_unknown hselect, (run_of_unknown hselect).2]
    rfl
  | ok selected =>
    have hquiet : ((r.changedFor o selected).run runner s).events.filterMap Event.phase? = [] :=
      quiet_changedFor r o selected runner s
    rw [Finished.phases, events_of_selected hselect, (run_of_selected runner s hselect).2,
      List.filterMap_cons, List.filterMap_append, hquiet]
    cases r.changedGiven o selected (r.listing runner s) with
    | error e => rfl
    | ok changed => exact congrArg (.selecting :: ·) (phases_runGiven selected changed runner _)

/-- **What a run starts** is started in its phase, whatever phase the run finds. -/
theorem allows_run (p : Phase) (runner : Runner σ) (s : σ) :
    Phase.Allows (r.MayRun o) p ((r.run o).run runner s).events := by
  cases hselect : r.select o.categories with
  | error e =>
    rw [events_of_unknown hselect, Phase.allows_entered]
    trivial
  | ok selected =>
    rw [events_of_selected hselect, Phase.allows_entered, Phase.allows_append]
    constructor
    · refine Phase.allows_of_no_phases (quiet_changedFor r o selected runner s) fun i hi => ?_
      rw [← Finished.started, started_changedFor] at hi
      exact .inl ⟨eq_of_mem_lead r o selected hi, rfl⟩
    · cases r.changedGiven o selected (r.listing runner s) with
      | error e => trivial
      | ok changed =>
        show Phase.Allows _ _ (_ ++ ([_] ++ ([_] ++ [])))
        simp only [Phase.allows_append, Phase.allows_entered]
        refine ⟨?_, trivial, trivial, trivial⟩
        exact (allows_runCategories r o.lint changed runner _ (select_sublist hselect).subset
          _).mono fun p i hi => .inr hi

/-- **A run ends early** exactly if a name is unknown, or the changes it goes by are. -/
theorem run_eq_error_iff (runner : Runner σ) (s : σ) :
    (∃ e, ((r.run o).run runner s).value = .error e) ↔
      (∃ n ∈ o.categories, r.get? n = none) ∨
        ∃ selected, r.select o.categories = .ok selected ∧ r.Unlisted o selected runner s := by
  cases hselect : r.select o.categories with
  | error e =>
    have hunknown := Registry.select_eq_error_iff.mp ⟨e, hselect⟩
    exact iff_of_true ⟨_, (run_of_unknown hselect).2⟩ (.inl hunknown)
  | ok selected =>
    have hknown : ¬∃ n ∈ o.categories, r.get? n = none := by
      rw [← Registry.select_eq_error_iff, hselect]
      exact nofun
    rw [or_iff_right hknown]
    cases hgiven : r.changedGiven o selected (r.listing runner s) with
    | error e =>
      refine iff_of_true ⟨_, (run_of_no_listing hselect hgiven).2⟩ ⟨selected, rfl, ?_⟩
      rw [unlisted_iff, hgiven]
      exact nofun
    | ok changed =>
      refine iff_of_false ?_ ?_
      · rw [(run_of_given hselect hgiven).2]
        exact nofun
      · rintro ⟨_, ⟨⟩, hunlisted⟩
        exact (unlisted_iff r o).mp hunlisted changed hgiven

end Runs

/-! ## 5. One run after another -/

/-- A run that is asked for, after the world has changed in some way. -/
structure Call (σ : Type) where
  change : σ → σ
  options : RunOptions

/-- What came of a call: the state of the world and the phase that it found, and how it
ended. -/
structure Episode (σ : Type) where
  options : RunOptions
  state : σ
  phase : Phase
  finished : Finished σ (Except RunError Report)

/-- One call after another; each finds the phase and the state that the one before it left,
but for what has changed in between. -/
def Registry.session (r : Registry) (runner : Runner σ) :
    Phase → σ → List (Call σ) → List (Episode σ)
  | _, _, [] => []
  | p, s, call :: calls =>
    let s := call.change s
    let finished := (r.run call.options).run runner s
    ⟨call.options, s, p, finished⟩ ::
      r.session runner (p.after finished.events) finished.state calls

section Sessions

variable {r : Registry} {runner : Runner σ}

/-- Every episode is a run in the state that it found. -/
theorem finished_of_mem_session {p : Phase} {s : σ} {calls : List (Call σ)} {e : Episode σ}
    (h : e ∈ r.session runner p s calls) :
    e.finished = (r.run e.options).run runner e.state := by
  induction calls generalizing p s with
  | nil => exact absurd h List.not_mem_nil
  | cons call calls ih =>
    rcases List.mem_cons.mp h with rfl | h
    · rfl
    · exact ih h

/-- The phase at the beginning is nothing that a call looks at. -/
theorem session_congr_phase (p p' : Phase) (s : σ) (calls : List (Call σ)) :
    (r.session runner p' s calls).map (fun e => (e.options, e.state, e.finished)) =
      (r.session runner p s calls).map fun e => (e.options, e.state, e.finished) := by
  induction calls generalizing p p' s with
  | nil => rfl
  | cons call calls ih => exact congrArg (_ :: ·) (ih _ _ _)

end Sessions

/-- **The phases of one run after another.**  Every call that completes goes through a round
for each category that it examines, and one that ends early enters no phase but the first.  It
ends early exactly if a name is unknown, or if changes are wanted, there is a category, and the
listing command cannot be started or fails.  The listing command is started while selecting,
tools and fixers while dispatching, and what a call comes to has nothing to do with the phase
that it finds. -/
theorem phase_law (r : Registry) (runner : Runner σ) (p : Phase) (s : σ) (calls : List (Call σ)) :
    (∀ e ∈ r.session runner p s calls,
      (∀ report, e.finished.value = .ok report →
        e.finished.phases = .selecting ::
          (List.replicate (report.outcomes.countP fun x => x.status ≠ .skipped .noChangedFiles)
            [.discovering, .filtering, .dispatching]).flatten ++ [.aggregating, .done]) ∧
      (∀ error, e.finished.value = .error error → e.finished.phases = [.selecting]) ∧
      ((∃ error, e.finished.value = .error error) ↔
        (∃ n ∈ e.options.categories, r.get? n = none) ∨
          ∃ selected, r.select e.options.categories = .ok selected ∧
            r.Unlisted e.options selected runner e.state) ∧
      (∀ before i reply later, e.finished.events = before ++ .ran i reply :: later →
        i = r.vcs.invocation r.sourceRoot ∧ e.phase.after before = .selecting ∨
          i ≠ r.vcs.invocation r.sourceRoot ∧
            (∃ c ∈ r.categories, ∃ files, c.StartsOver e.options.lint.fix files i) ∧
              e.phase.after before = .dispatching) ∧
      e.finished = (r.run e.options).run runner e.state) ∧
    ∀ p', (r.session runner p' s calls).map (fun e => (e.options, e.state, e.finished)) =
      (r.session runner p s calls).map fun e => (e.options, e.state, e.finished) := by
  refine ⟨fun e he => ?_, fun p' => session_congr_phase p p' s calls⟩
  have hrun := finished_of_mem_session he
  have hphases := phases_run (r := r) (o := e.options) runner e.state
  rw [← hrun] at hphases
  refine ⟨fun report hreport => ?_, fun error herror => ?_, ?_,
    fun before i reply later hsplit => ?_, hrun⟩
  · rw [hreport] at hphases
    exact hphases
  · rw [herror] at hphases
    exact hphases
  · rw [hrun]
    exact run_eq_error_iff runner e.state
  · have hallows := allows_run (r := r) (o := e.options) e.phase runner e.state
    rw [← hrun, hsplit] at hallows
    rcases hallows.started with ⟨hlisting, hphase⟩ | ⟨hphase, c, hc, files, hstart⟩
    · exact .inl ⟨hlisting, hphase⟩
    · exact .inr ⟨ne_listing_of_startsOver r hstart, ⟨c, hc, files, hstart⟩, hphase⟩

namespace Example

/-- A call for a category that there is not, and then one for all that has changed. -/
def history : List (Call Script) :=
  [{ change := id, options := { categories := ["rs"] } }, { change := fun _ => answers, options }]

/-- The law over two calls, the first of which names no category there is: it ends early and
leaves the second in the phase of selecting, which goes through three rounds nevertheless. -/
theorem phase_law_history :
    ∃ first second, registry.session (scripted sources) .idle [] history = [first, second] ∧
      first.finished.phases = [.selecting] ∧ second.phase = .selecting ∧
      ∃ report, second.finished.value = .ok report ∧
        second.finished.phases =
          .selecting :: (List.replicate 3 Phase.round).flatten ++ [.aggregating, .done] := by
  obtain ⟨hlaw, -⟩ := phase_law registry (scripted sources) .idle [] history
  obtain ⟨first, second, hsession⟩ : ∃ first second,
      registry.session (scripted sources) .idle [] history = [first, second] := ⟨_, _, rfl⟩
  rw [hsession] at hlaw
  obtain ⟨-, herror, -⟩ := hlaw first List.mem_cons_self
  obtain ⟨hok, -⟩ := hlaw second (List.mem_cons_of_mem _ List.mem_cons_self)
  refine ⟨first, second, hsession, ?_⟩
  cases hsession
  obtain ⟨report, hreport⟩ : ∃ report,
      ((registry.run options).run (scripted sources) answers).value = .ok report := ⟨_, rfl⟩
  refine ⟨herror _ rfl, rfl, report, hreport, (hok report hreport).trans ?_⟩
  cases hreport
  rfl

end Example

end LintRun
