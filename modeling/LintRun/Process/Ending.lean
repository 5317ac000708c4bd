/-
# How processes end

A process exits with a code of one byte, or a signal ends it.  Both are told apart by one
number: codes as they are, signals above them.

Models `exit_code` of an exit status: the code of a process that exited, or 128 and the number of
the signal that ended it.
-/
namespace LintRun

/-- A signal, by its number. -/
structure Signal where
  number : Nat
  bounds : 1 ≤ number ∧ number ≤ 64
  deriving DecidableEq

instance : Inhabited Signal := ⟨⟨1, by decide⟩⟩

/-- The signal with a number. -/
def Signal.ofNat? (n : Nat) : Option Signal :=
  if h : 1 ≤ n ∧ n ≤ 64 then some ⟨n, h⟩ else none

/-- How a process ended. -/
inductive Ending
  | exited (code : UInt8)
  | killed (signal : Signal)
  deriving DecidableEq, Inhabited

namespace Ending

/-- The one number for an ending. -/
def code : Ending → Int
  | .exited c => c.toNat
  | .killed signal => 128 + signal.number

/-- Success. -/
def clean : Ending := .exited 0

theorem code_nonneg (e : Ending) : 0 ≤ e.code := by
  cases e <;> simp only [code] <;> omega

theorem code_lt (e : Ending) : e.code < 256 := by
  cases e with
  | exited c =>
    have h := c.toNat_lt
    simp only [code]
    omega
  | killed signal =>
    have h := signal.bounds
    simp only [code]
    omega

end Ending

/-- Signals by name. -/
def signalNames : List (String × Nat) := [
  ("HUP", 1),
  ("INT", 2),
  ("QUIT", 3),
  ("ILL", 4),
  ("TRAP", 5),
  ("ABRT", 6),
  ("BUS", 7),
  ("FPE", 8),
  ("KILL", 9),
  ("USR1", 10),
  ("SEGV", 11),
  ("USR2", 12),
  ("PIPE", 13),
  ("ALRM", 14),
  ("TERM", 15),
  ("CHLD", 17),
  ("CONT", 18),
  ("STOP", 19),
  ("TSTP", 20),
  ("TTIN", 21),
  ("TTOU", 22),
  ("URG", 23),
  ("XCPU", 24),
  ("XFSZ", 25),
  ("VTALRM", 26),
  ("PROF", 27),
  ("WINCH", 28),
  ("IO", 29),
  ("PWR", 30),
  ("SYS", 31)]

/-- Signals that do not end a process that takes no notice of them: those about children,
windows and urgent data, and those that stop and continue it. -/
def harmlessSignals : List Nat := [17, 18, 19, 20, 21, 22, 23, 28]

end LintRun
