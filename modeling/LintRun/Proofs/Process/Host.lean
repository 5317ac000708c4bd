import LintRun.Machine.Basic

/-!
# Hosts

A host carries out invocations: it says how a process ended and what it wrote, or why there is
none.  What the program makes of that is the same for every host (`Host.runner`), and a machine
is one (`Machine.runner_eq`), so that what holds of all hosts does not depend on what the
processes of a machine are.

The code that is reported of a process is a byte, and zero exactly for success
(`Host.code_reply`).
-/

namespace LintRun

/-- Something that carries out invocations, with a state of type `σ`. -/
structure Host (σ : Type) where
  spawn : Invocation → σ → Except OsError (Ending × Streams) × σ
  /-- The files that there are in a state. -/
  files : σ → Tree

namespace Host

variable {σ : Type}

/-- The reply to an invocation: captured streams are handed back, the others are shared. -/
def reply (i : Invocation) : Except OsError (Ending × Streams) → Reply
  | .error .notFound => { result := .error (.toolNotFound i.program) }
  | .error e => { result := .error (.failed i.program e.message) }
  | .ok (ending, written) => {
      result := .ok {
        code := ending.code
        stdout := if i.capturesOutput then Utf8.decodeLossy written.out else ""
        stderr := if i.capturesErrors then Utf8.decodeLossy written.err else "" }
      shared := {
        out := if i.capturesOutput then [] else written.out
        err := if i.capturesErrors then [] else written.err } }

/-- Starts processes on a host. -/
def runner (h : Host σ) : Runner σ where
  answer i s := (reply i (h.spawn i s).1, (h.spawn i s).2)
  files := h.files

end Host

/-! ## 1. Machines as hosts -/

/-- What came of a process, from how it ended and the world that it left. -/
def Machine.finish (m : Machine) (x : Except OsError Ending × World) :
    Except OsError (Ending × Streams) × Machine :=
  (x.1.map fun ending =>
    (ending, { out := toOctets (x.2.collected 1), err := toOctets (x.2.collected 2) }),
    m.after x.2)

/-- A machine carries out invocations. -/
def Machine.host : Host Machine where
  spawn i m := m.finish (m.start i)
  files m := m.tree

/-- **A machine is a host.** -/
theorem Machine.runner_eq : Machine.runner = Machine.host.runner := by
  have hanswer (i : Invocation) (m : Machine) :
      m.reply i = (Host.reply i (m.finish (m.start i)).1, (m.finish (m.start i)).2) := by
    unfold Machine.reply
    rcases m.start i with ⟨result, w⟩
    cases result with
    | ok ending => rfl
    | error e =>
      cases e with
      | notFound => rfl
      | _ => rfl
  exact congrArg (Runner.mk · Machine.tree) (funext fun i => funext fun m => hanswer i m)

/-! ## 2. Codes -/

namespace Ending

/-- **The code of an ending is zero** exactly if the process exited with the code zero. -/
theorem code_eq_zero_iff {e : Ending} : e.code = 0 ↔ e = .exited 0 := by
  cases e with
  | exited c =>
    rw [code, Ending.exited.injEq, Int.natCast_eq_zero, ← UInt8.toNat_inj]
    rfl
  | killed signal =>
    refine iff_of_false ?_ fun h => by cases h
    rw [code]
    omega

/-- A byte survives being cut to its low eight bits. -/
theorem toNat_ofInt {n : Int} (hnonneg : 0 ≤ n) (hlt : n < 256) :
    ((UInt8.ofInt n).toNat : Int) = n := by
  rw [UInt8.ofInt, UInt8.toNat_ofNat']
  omega

end Ending

/-- **What is reported of a process**: the code of its ending. -/
theorem Host.code_reply {i : Invocation} {result : Except OsError (Ending × Streams)}
    {output : Output} (h : (Host.reply i result).result = .ok output) :
    ∃ ending written, result = .ok (ending, written) ∧ output.code = ending.code := by
  unfold Host.reply at h
  split at h
  · cases h
  · cases h
  · cases h
    exact ⟨_, _, rfl, rfl⟩

end LintRun
