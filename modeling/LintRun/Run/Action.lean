import LintRun.Process.Runner

/-!
# Actions

What a run does step by step: it enters phases, starts processes and writes lines to
standard error.  An action is run by a runner in some state; it gives a value, the events
in order, and the new state.  It cannot look at events of the past.

Models what `RunCoordinator` and `Dispatcher` do besides computing: `enter` and `phase`, calls of
the runner, lines for the user.  Lines for the log are left out.
-/

namespace LintRun

/-- Where a run is. -/
inductive Phase
  | idle
  | selecting
  | discovering
  | filtering
  | dispatching
  | aggregating
  | done
  deriving DecidableEq, Inhabited

/-- What a run does. -/
inductive Event
  | entered (phase : Phase)
  | ran (invocation : Invocation) (reply : Reply)
  | noted (line : String)
  deriving Inhabited

/-- The end of an action. -/
structure Finished (σ α : Type) where
  value : α
  events : List Event
  state : σ

/-- Something to be done by a runner. -/
def Action (σ α : Type) : Type := Runner σ → σ → Finished σ α

namespace Action

variable {σ α β : Type}

/-- Runs an action. -/
def run (a : Action σ α) (runner : Runner σ) (s : σ) : Finished σ α := a runner s

/-- Does nothing. -/
protected def pure (a : α) : Action σ α := fun _ s => ⟨a, [], s⟩

/-- Does one thing after another. -/
protected def bind (a : Action σ α) (f : α → Action σ β) : Action σ β := fun runner s =>
  let first := a runner s
  let second := f first.value runner first.state
  ⟨second.value, first.events ++ second.events, second.state⟩

instance : Monad (Action σ) where
  pure := Action.pure
  bind := Action.bind

/-- Enters a phase. -/
def enter (phase : Phase) : Action σ Unit := fun _ s => ⟨(), [.entered phase], s⟩

/-- Writes a line to standard error. -/
def note (line : String) : Action σ Unit := fun _ s => ⟨(), [.noted line], s⟩

/-- Writes lines to standard error. -/
def noteAll (lines : List String) : Action σ Unit := fun _ s => ⟨(), lines.map .noted, s⟩

/-- The files that there are now. -/
def files : Action σ Tree := fun runner s => ⟨runner.files s, [], s⟩

/-- Starts a process and waits for its end. -/
def start (i : Invocation) : Action σ (Except StartError Output) := fun runner s =>
  let (reply, s) := runner.answer i s
  ⟨reply.result, [.ran i reply], s⟩

@[simp] theorem run_pure (a : α) (runner : Runner σ) (s : σ) :
    (pure a : Action σ α).run runner s = ⟨a, [], s⟩ := rfl

@[simp] theorem run_bind (a : Action σ α) (f : α → Action σ β) (runner : Runner σ) (s : σ) :
    (a >>= f).run runner s =
      let first := a.run runner s
      let second := (f first.value).run runner first.state
      ⟨second.value, first.events ++ second.events, second.state⟩ := rfl

@[simp] theorem run_enter (phase : Phase) (runner : Runner σ) (s : σ) :
    (enter phase).run runner s = ⟨(), [.entered phase], s⟩ := rfl

@[simp] theorem run_note (line : String) (runner : Runner σ) (s : σ) :
    (note line).run runner s = ⟨(), [.noted line], s⟩ := rfl

@[simp] theorem run_noteAll (lines : List String) (runner : Runner σ) (s : σ) :
    (noteAll lines).run runner s = ⟨(), lines.map .noted, s⟩ := rfl

@[simp] theorem run_files (runner : Runner σ) (s : σ) :
    (files : Action σ Tree).run runner s = ⟨runner.files s, [], s⟩ := rfl

theorem id_map_run (a : Action σ α) : id <$> a = a := by
  funext runner s
  simp only [Functor.map]
  show Finished.mk _ _ _ = _
  simp [Action.pure]

theorem pure_bind_run (a : α) (f : α → Action σ β) : pure a >>= f = f a := by
  funext runner s
  show Finished.mk _ _ _ = _
  simp [pure, Action.pure]

theorem bind_assoc_run {γ : Type} (a : Action σ α) (f : α → Action σ β) (g : β → Action σ γ) :
    a >>= f >>= g = a >>= fun x => f x >>= g := by
  funext runner s
  show Finished.mk _ _ _ = Finished.mk _ _ _
  simp [bind, Action.bind]

instance : LawfulMonad (Action σ) :=
  LawfulMonad.mk' _ id_map_run pure_bind_run bind_assoc_run

end Action

namespace Event

/-- The invocation that an event starts. -/
def invocation? : Event → Option Invocation
  | .ran i _ => some i
  | _ => none

/-- The phase that an event enters. -/
def phase? : Event → Option Phase
  | .entered p => some p
  | _ => none

/-- The line that an event writes. -/
def line? : Event → Option String
  | .noted l => some l
  | _ => none

/-- What an event adds to standard output. -/
def out : Event → List UInt8
  | .ran _ reply => reply.shared.out
  | _ => []

/-- What an event adds to standard error. -/
def err : Event → List UInt8
  | .ran _ reply => reply.shared.err
  | .noted line => Utf8.encode line ++ [10]
  | .entered _ => []

end Event

/-- The phase after some events. -/
def Phase.after (p : Phase) (events : List Event) : Phase :=
  ((events.filterMap Event.phase?).getLast?).getD p

end LintRun
