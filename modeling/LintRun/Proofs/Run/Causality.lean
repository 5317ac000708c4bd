import LintRun.Run.Action

/-!
# Actions know what their runner tells them

An action is a function of a runner and a state, and nothing in its type keeps it from
changing the state by itself or from asking more than it lets on.  The actions of this
library do neither (`Action.Causal`):

* the state they leave is the one that the processes they started lead to;
* what they give and do depends on the files that the runner shows and on the results it
  replies, up to the last process they start (`Runner.Alike`), and on nothing else.

Both are closed under doing one thing after another (`Causal.bind`), so that they hold of a
whole run once they hold of its steps.  `Action.Stepwise` says so of any property of actions;
linting and finding the changed files have every such property.

The definition is about two runs at once, since "depends on nothing else" is.  `Alike` compares
two runners along the processes that the first run starts, so it is no condition on what either
would answer to anything else.  In `Causal.bind` the second action starts in two states that
need not be equal, and this is why the comparison is carried along with the states
(`alike_append`).

What a process writes to the streams that it shares with the program is not compared: the
program cannot see it (`Event.known`).
-/

namespace LintRun

variable {σ α β : Type}

/-- The processes that were started, in order. -/
def Finished.started (f : Finished σ α) : List Invocation := f.events.filterMap Event.invocation?

/-- An event as far as the program knows of it: what a process wrote to shared streams is
left out. -/
def Event.known : Event → Event
  | .ran i reply => .ran i { result := reply.result }
  | .entered phase => .entered phase
  | .noted line => .noted line

/-- What is known of an event tells which process it was. -/
@[simp] theorem Event.invocation?_known (e : Event) : e.known.invocation? = e.invocation? := by
  cases e <;> rfl

/-- What is known of events tells which processes were started. -/
theorem started_of_known {f : Finished σ α} {g : Finished σ β}
    (h : f.events.map Event.known = g.events.map Event.known) : f.started = g.started := by
  have hknown (events : List Event) : (events.map Event.known).filterMap Event.invocation? =
      events.filterMap Event.invocation? := by
    simp only [List.filterMap_map, Function.comp_def, Event.invocation?_known]
  rw [Finished.started, Finished.started, ← hknown, h, hknown]

/-! ## 1. What a runner shows on the way

Three conditions on a runner along a list of processes: the files stay the same (`Shows`), a
second runner cannot be told from it (`Alike`), and, for all lists at once, its answers have
nothing to do with what came before (`Steady`).  Each is split at the place where two lists are
put together. -/

namespace Runner

variable {runner runner' : Runner σ} {s s' : σ}

/-- The state after some processes. -/
def after (runner : Runner σ) (s : σ) : List Invocation → σ
  | [] => s
  | i :: is => runner.after (runner.answer i s).2 is

/-- States are reached process by process. -/
theorem after_append (is js : List Invocation) :
    runner.after s (is ++ js) = runner.after (runner.after s is) js := by
  induction is generalizing s with
  | nil => rfl
  | cons i is ih => exact ih

/-- The files are those of one tree before, between and after some processes. -/
def Shows (runner : Runner σ) (t : Tree) (s : σ) : List Invocation → Prop
  | [] => runner.files s = t
  | i :: is => runner.files s = t ∧ runner.Shows t (runner.answer i s).2 is

/-- The tree that is shown is there at the start. -/
theorem Shows.files {t : Tree} {is : List Invocation} (h : runner.Shows t s is) :
    runner.files s = t := by
  cases is with
  | nil => exact h
  | cons i is => exact h.1

/-- A tree is shown along two lists if it is shown along one and then, from there, along the
other. -/
theorem shows_append {t : Tree} {is js : List Invocation} :
    runner.Shows t s (is ++ js) ↔ runner.Shows t s is ∧ runner.Shows t (runner.after s is) js := by
  induction is generalizing s with
  | nil => exact ⟨fun h => ⟨h.files, h⟩, And.right⟩
  | cons i is ih =>
    rw [List.cons_append, Shows, Shows, ih, and_assoc]
    rfl

/-- A script changes no files. -/
theorem shows_scripted (t : Tree) (script : Script) (is : List Invocation) :
    (scripted t).Shows t script is := by
  induction is generalizing script with
  | nil => rfl
  | cons i is ih => exact ⟨rfl, ih _⟩

/-- A second runner shows the same files before, between and after some processes, and
replies the same results. -/
def Alike (runner runner' : Runner σ) (s s' : σ) : List Invocation → Prop
  | [] => runner'.files s' = runner.files s
  | i :: is => runner'.files s' = runner.files s ∧
      (runner'.answer i s').1.result = (runner.answer i s).1.result ∧
      runner.Alike runner' (runner.answer i s).2 (runner'.answer i s').2 is

/-- Runners that are alike show the same files at the start. -/
theorem Alike.files {is : List Invocation} (h : runner.Alike runner' s s' is) :
    runner'.files s' = runner.files s := by
  cases is with
  | nil => exact h
  | cons i is => exact h.1

/-- Runners are alike along two lists if they are along one and then, each from where it has
got to, along the other. -/
theorem alike_append {is js : List Invocation} :
    runner.Alike runner' s s' (is ++ js) ↔
      runner.Alike runner' s s' is ∧
        runner.Alike runner' (runner.after s is) (runner'.after s' is) js := by
  induction is generalizing s s' with
  | nil => exact ⟨fun h => ⟨h.files, h⟩, And.right⟩
  | cons i is ih =>
    rw [List.cons_append, Alike, Alike, ih, and_assoc, and_assoc]
    rfl

/-- **A runner that answers by the invocation alone**: whatever was started before, it shows
the same files and replies the same result to the same invocation. -/
def Steady (runner : Runner σ) (t : Tree) (reply : Invocation → Except StartError Output)
    (s : σ) : Prop :=
  ∀ is, runner.files (runner.after s is) = t ∧
    ∀ i, (runner.answer i (runner.after s is)).1.result = reply i

variable {t : Tree} {reply : Invocation → Except StartError Output}

/-- A steady runner shows its files. -/
theorem Steady.files (h : runner.Steady t reply s) : runner.files s = t := (h []).1

/-- A steady runner replies as it is said to. -/
theorem Steady.result (h : runner.Steady t reply s) (i : Invocation) :
    (runner.answer i s).1.result = reply i := (h []).2 i

/-- A steady runner stays steady. -/
theorem Steady.after (h : runner.Steady t reply s) (is : List Invocation) :
    runner.Steady t reply (runner.after s is) := by
  intro js
  rw [← after_append]
  exact h (is ++ js)

/-- Two steady runners with the same files are alike as long as they reply the same. -/
theorem Steady.alike {reply' : Invocation → Except StartError Output}
    (h : runner.Steady t reply s) (h' : runner'.Steady t reply' s') {is : List Invocation}
    (hsame : ∀ i ∈ is, reply' i = reply i) : runner.Alike runner' s s' is := by
  induction is generalizing s s' with
  | nil => exact h'.files.trans h.files.symm
  | cons i is ih =>
    have hresult := (h'.result i).trans ((hsame i List.mem_cons_self).trans (h.result i).symm)
    exact ⟨h'.files.trans h.files.symm, hresult, ih (h.after [i]) (h'.after [i])
      fun j hj => hsame j (List.mem_cons_of_mem i hj)⟩

/-- The runner that replies as a function says, over files that stay as they are. -/
def replying (t : Tree) (reply : Invocation → Except StartError Output) : Runner Unit where
  answer i _ := ({ result := reply i }, ())
  files _ := t

/-- There are steady runners. -/
theorem steady_replying (t : Tree) (reply : Invocation → Except StartError Output) :
    (replying t reply).Steady t reply () := fun _ => ⟨rfl, fun _ => rfl⟩

/-- A script without a rule that wears out stays as it is. -/
theorem answer_of_untimed (i : Invocation) {script : Script}
    (h : ∀ rule ∈ script, rule.times = none) : (script.answer i).2 = script := by
  induction script with
  | nil => rfl
  | cons rule rules ih =>
    rw [Script.answer]
    split
    · have hspent : rule.spent = rule := by
        rw [Rule.spent, h rule List.mem_cons_self]
        cases rule
        cases h _ List.mem_cons_self
        rfl
      rw [hspent]
    · exact congrArg (rule :: ·) (ih fun r hr => h r (List.mem_cons_of_mem _ hr))

/-- Such a script is steady. -/
theorem steady_scripted (t : Tree) {script : Script} (h : ∀ rule ∈ script, rule.times = none) :
    (scripted t).Steady t (fun i => (script.answer i).1) script := by
  have hafter (is : List Invocation) : (scripted t).after script is = script := by
    induction is with
    | nil => rfl
    | cons i is ih =>
      rw [Runner.after, show ((scripted t).answer i script).2 = script from answer_of_untimed i h]
      exact ih
  intro is
  rw [hafter]
  exact ⟨rfl, fun _ => rfl⟩

end Runner

/-! ## 2. Causal actions

One lemma for each thing that an action can be: giving a value, entering a phase, writing
lines, looking at the files, starting a process, and one thing after another. -/

namespace Action

/-- **An action that knows what its runner tells it.** -/
structure Causal (a : Action σ α) : Prop where
  state_eq (runner : Runner σ) (s : σ) :
    (a.run runner s).state = runner.after s (a.run runner s).started
  alike {runner runner' : Runner σ} {s s' : σ}
      (h : runner.Alike runner' s s' (a.run runner s).started) :
    (a.run runner' s').value = (a.run runner s).value ∧
      (a.run runner' s').events.map Event.known = (a.run runner s).events.map Event.known

/-- What is started by one thing after another is started in that order. -/
@[simp] theorem started_bind (a : Action σ α) (f : α → Action σ β) (runner : Runner σ) (s : σ) :
    ((a >>= f).run runner s).started =
      (a.run runner s).started ++
        ((f (a.run runner s).value).run runner (a.run runner s).state).started :=
  List.filterMap_append

@[simp] theorem started_pure (a : α) (runner : Runner σ) (s : σ) :
    ((pure a : Action σ α).run runner s).started = [] := rfl

theorem Causal.pure (a : α) : (Pure.pure a : Action σ α).Causal where
  state_eq _ _ := rfl
  alike _ := ⟨rfl, rfl⟩

theorem Causal.enter (phase : Phase) : (enter phase : Action σ Unit).Causal where
  state_eq _ _ := rfl
  alike _ := ⟨rfl, rfl⟩

theorem Causal.note (line : String) : (note line : Action σ Unit).Causal where
  state_eq _ _ := rfl
  alike _ := ⟨rfl, rfl⟩

@[simp] theorem started_noteAll (lines : List String) (runner : Runner σ) (s : σ) :
    ((noteAll lines).run runner s).started = [] := by
  simp [Finished.started, List.filterMap_map, Function.comp_def, Event.invocation?]

theorem Causal.noteAll (lines : List String) : (noteAll lines : Action σ Unit).Causal where
  state_eq _ _ := by
    rw [started_noteAll]
    rfl
  alike _ := ⟨rfl, rfl⟩

/-- Lines may be written in two goes. -/
theorem noteAll_append (lines more : List String) :
    (noteAll (lines ++ more) : Action σ Unit) = noteAll lines >>= fun _ => noteAll more := by
  funext runner s
  show Finished.mk _ _ _ = Finished.mk _ _ _
  rw [List.map_append]
  rfl

/-- Looking at the files gives what the runner shows; two runners that are alike show the same.
-/
theorem Causal.files : (files : Action σ Tree).Causal where
  state_eq _ _ := rfl
  alike h := ⟨h.files, rfl⟩

@[simp] theorem started_start (i : Invocation) (runner : Runner σ) (s : σ) :
    ((start i).run runner s).started = [i] := rfl

/-- Starting a process gives its result, on which runners that are alike agree. -/
theorem Causal.start (i : Invocation) : (start i : Action σ _).Causal where
  state_eq _ _ := rfl
  alike {runner runner' s s'} h := by
    obtain ⟨-, hresult, -⟩ := h
    refine ⟨hresult, ?_⟩
    show [Event.known _] = [Event.known _]
    simp only [Event.known, hresult]

/-- **One thing after another.**  What the first did is known to the second, no more. -/
theorem Causal.bind {a : Action σ α} {f : α → Action σ β} (ha : a.Causal)
    (hf : ∀ x, (f x).Causal) : (a >>= f).Causal where
  state_eq runner s := by
    rw [started_bind, Runner.after_append, ← ha.state_eq, ← (hf _).state_eq]
    rfl
  alike {runner runner' s s'} h := by
    rw [started_bind, Runner.alike_append] at h
    obtain ⟨hvalue, hevents⟩ := ha.alike h.1
    have hstate : (a.run runner' s').state = runner'.after s' (a.run runner s).started := by
      rw [ha.state_eq, started_of_known hevents]
    have h2 := h.2
    rw [← ha.state_eq, ← hstate] at h2
    obtain ⟨hvalue', hevents'⟩ := (hf _).alike h2
    simp only [run_bind, List.map_append, hvalue]
    exact ⟨hvalue', by rw [hevents, hevents']⟩

theorem Causal.ite {c : Prop} [Decidable c] {a b : Action σ α} (ha : a.Causal) (hb : b.Causal) :
    (if c then a else b).Causal := by
  split
  · exact ha
  · exact hb

/-! ## 3. Asking one process

The program never starts a process without doing the same three things with its result. -/

/-- Starts a process, writes the lines that its result calls for, and gives what the result
means. -/
def consult (i : Invocation) (lines : Except StartError Output → List String)
    (meaning : Except StartError Output → α) : Action σ α := do
  let result ← start i
  noteAll (lines result)
  return meaning result

section Consult

variable (i : Invocation) (lines : Except StartError Output → List String)
  (meaning : Except StartError Output → α)

/-- Asking one process is causal, whatever is made of the result. -/
theorem Causal.consult : (consult i lines meaning : Action σ α).Causal :=
  .bind (.start i) fun _ => .bind (.noteAll _) fun _ => .pure _

variable (runner : Runner σ) (s : σ)

/-- What is made of a result depends on the reply alone. -/
@[simp] theorem value_consult :
    ((consult i lines meaning : Action σ α).run runner s).value =
      meaning (runner.answer i s).1.result := rfl

/-- Asking one process starts that process and no other. -/
@[simp] theorem started_consult :
    ((consult i lines meaning : Action σ α).run runner s).started = [i] := by
  rw [consult, started_bind, started_start, started_bind, started_noteAll]
  rfl

end Consult

/-! ## 4. Properties that come from steps

Causality is one of several properties that are closed in this way.  Stating the closure once
means that the loops of the program are gone through once, and not for each property. -/

/-- **A property that comes from steps**: it holds of doing nothing, of writing lines and of
asking one process, and of one thing after another if it holds of both. -/
structure Stepwise (P : (α : Type) → Action σ α → Prop) : Prop where
  pure {α : Type} (a : α) : P α (Pure.pure a)
  noteAll (lines : List String) : P Unit (noteAll lines)
  consult {α : Type} (i : Invocation) (lines : Except StartError Output → List String)
    (meaning : Except StartError Output → α) : P α (consult i lines meaning)
  bind {α β : Type} {a : Action σ α} {f : α → Action σ β} (ha : P α a)
    (hf : ∀ x, P β (f x)) : P β (a >>= f)

/-- **Causality comes from steps.** -/
theorem stepwise_causal : Stepwise fun α (a : Action σ α) => a.Causal :=
  ⟨.pure, .noteAll, .consult, .bind⟩

end Action

end LintRun
