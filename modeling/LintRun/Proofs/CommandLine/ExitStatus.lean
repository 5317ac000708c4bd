import LintRun.CommandLine.Program
import LintRun.Proofs.Process.Host
import LintRun.Proofs.Run.ExitCode
import LintRun.Proofs.Run.Replies

/-!
# The exit status of the program

On a host the codes of processes are bytes, so that every code of a category is one
(`isByte_exitCode`) and the exit code of a report as well.  It survives being cut to a byte, and
the exit status of the program tells of the categories what the report tells: it is zero exactly
if none failed, and otherwise the code of the first that did (`exitStatus_law`).

Three cuts could spoil an exit code: the system tells of a process in a number that is more
than a code, the program keeps codes as wider numbers, and it leaves with one byte of its own.
The first is the business of `Ending.code`, whose values are bytes, a signal standing for a
number above 128 so that a process which was killed never counts as successful.  A category
fails with such a code or with the general one (`Status.Exits`), and a report with the code of
a category; so all of them are bytes, and the last cut takes nothing away.

The host is arbitrary.  That the replies in a run are those of the host, in the states that it
goes through, is `replied_run`.
-/

namespace LintRun

variable {σ : Type}

/-! ## 1. Codes that are bytes

From a process to a result, from a result to a status, and from the statuses to the report. -/

/-- A code that fits into one byte. -/
def IsByte (code : Int) : Prop := 0 ≤ code ∧ code ≤ 255

theorem Ending.isByte_code (e : Ending) : IsByte e.code :=
  ⟨e.code_nonneg, Int.lt_add_one_iff.mp e.code_lt⟩

theorem isByte_generalFailure : IsByte generalFailure := by
  unfold IsByte generalFailure
  omega

/-- **A byte survives** being cut to its low eight bits. -/
theorem IsByte.toNat_ofInt {code : Int} (h : IsByte code) :
    ((UInt8.ofInt code).toNat : Int) = code :=
  Ending.toNat_ofInt h.1 (Int.lt_add_one_iff.mpr h.2)

section Reports

variable (host : Host σ) (r : Registry) (o : RunOptions)

/-- What could not be started counts as the general failure, which is a byte as well. -/
theorem isByte_resultCode (i : Invocation) (s : σ) :
    IsByte (resultCode (host.runner.answer i s).1.result) := by
  cases hresult : (host.runner.answer i s).1.result with
  | error e => exact isByte_generalFailure
  | ok output =>
    obtain ⟨ending, written, -, hcode⟩ := Host.code_reply hresult
    show IsByte output.code
    rw [hcode]
    exact ending.isByte_code

theorem isByte_failureCode (c : Category) (fix : Bool) (files : List Path) (s : σ) :
    IsByte (c.failureCode fix files host.runner s) := by
  unfold Category.failureCode
  cases c.mode with
  | batch => exact isByte_resultCode host _ s
  | perFile => exact isByte_generalFailure

/-- A sound status has the code that it is sound for, or zero. -/
theorem Status.Exits.isByte {status : Status} {code : Int} (h : status.Exits code)
    (hcode : IsByte code) : IsByte status.exitCode := by
  obtain ⟨-, hzero⟩ | ⟨-, heq, -⟩ := h
  · rw [hzero]
    exact ⟨Int.le_refl 0, by omega⟩
  · rwa [heq]

variable {host r o} {s : σ} {report : Report}
  (hreport : ((r.run o).run host.runner s).value = .ok report)

include hreport

/-- **The code of every category** is a byte. -/
theorem isByte_exitCode {x : Outcome} (hx : x ∈ report.outcomes) : IsByte x.status.exitCode := by
  obtain ⟨selected, changed, -, -, hxs, -⟩ := completed_run hreport
  obtain ⟨k, hk⟩ := List.mem_iff_getElem?.mp hx
  obtain ⟨c, hc⟩ := category_of_outcome hxs hk
  exact (exits_outcome hxs hc hk).isByte (isByte_failureCode ..)

/-- The report has the code of one of its categories, or zero. -/
theorem isByte_exitCode_report : IsByte report.exitCode := by
  cases hfirst : report.firstFailure? with
  | none =>
    rw [Report.exitCode_eq_zero_iff.mpr hfirst]
    exact ⟨Int.le_refl 0, by omega⟩
  | some x =>
    rw [Report.exitCode_of_firstFailure? hfirst]
    exact isByte_exitCode hreport (List.mem_of_find?_eq_some hfirst)

end Reports

/-! ## 2. The program

`Lints` is the program getting as far as a report; in all other cases it leaves with a code of
its own. -/

namespace Program

/-- **The program runs the linters**: the command line is well written and asks for a run, there
is a registry, and nothing ends the run early. -/
structure Lints (args : List (List UInt8)) (runner : Runner σ) (s : σ) (o : Options)
    (r : Registry) (report : Report) : Prop where
  options : Options.ofArguments args = .ok o
  registry : ∃ sourceRoot, (runner.files s).canonical? o.root = .ok sourceRoot ∧
    Registry.discover (runner.files s) sourceRoot o.config = .ok r
  linting : o.has .list = false
  completed : ((r.run (runOptions o)).run runner s).value = .ok report

variable {args : List (List UInt8)} {runner : Runner σ} {s : σ} {o : Options} {r : Registry}
  {report : Report}

/-- The program comes down to a run over the categories. -/
theorem Lints.run_eq (h : Lints args runner s o r report) :
    run args runner s = lintTree r o runner s := by
  obtain ⟨sourceRoot, hroot, hregistry⟩ := h.registry
  rw [run, h.options]
  show carryOut o runner s = _
  unfold carryOut
  simp only [hroot, hregistry, h.linting, Bool.false_eq_true, if_false]

/-- The program leaves with the exit code of the report, cut to a byte. -/
theorem Lints.code_run (h : Lints args runner s o r report) :
    (run args runner s).code = UInt8.ofInt report.exitCode := by
  rw [h.run_eq, lintTree, h.completed]

/-- On a machine the program runs as on any host. -/
theorem runOn_eq (m : Machine) (args : List (List UInt8)) :
    runOn m args = run args Machine.host.runner m := by
  rw [runOn, Machine.runner_eq]

end Program

/-- **The exit status tells the truth.**  Whatever comes of the processes on a host, if the
program runs the linters then every code that it is told of a process is that of its ending, a
byte, and zero only for a process that exited with zero.  The exit code of the report is a byte,
so the program leaves with it unchanged: with zero exactly if no category failed, and otherwise
with the code of the first that failed. -/
theorem exitStatus_law (host : Host σ) (s : σ) (args : List (List UInt8)) (o : Options)
    (r : Registry) (report : Report) (hlints : Program.Lints args host.runner s o r report) :
    (∀ before i reply later,
      ((r.run (Program.runOptions o)).run host.runner s).events =
        before ++ .ran i reply :: later →
      ∀ output, reply.result = .ok output → ∃ ending written,
        (host.spawn i (host.runner.after s (before.filterMap Event.invocation?))).1 =
          .ok (ending, written) ∧
        output.code = ending.code ∧ 0 ≤ output.code ∧ output.code ≤ 255 ∧
        (output.code = 0 ↔ ending = .exited 0)) ∧
    0 ≤ report.exitCode ∧ report.exitCode ≤ 255 ∧
    ((Program.run args host.runner s).code.toNat : Int) = report.exitCode ∧
    ∃ selected, r.select (Program.runOptions o).categories = .ok selected ∧
      report.outcomes.map Outcome.key = selected.map Category.key ∧
      ((Program.run args host.runner s).code = 0 ↔
        ∀ x ∈ report.outcomes, x.status.isFailure = false) ∧
      ∀ (k : Nat) (x : Outcome), report.outcomes[k]? = some x → x.status.isFailure = true →
        (∀ j < k, ∀ y : Outcome, report.outcomes[j]? = some y → y.status.isFailure = false) →
        ((Program.run args host.runner s).code.toNat : Int) = x.status.exitCode := by
  have hbyte : IsByte report.exitCode := isByte_exitCode_report hlints.completed
  have hcode : ((Program.run args host.runner s).code.toNat : Int) = report.exitCode := by
    rw [hlints.code_run]
    exact hbyte.toNat_ofInt
  obtain ⟨selected, changed, hselect, -, hxs, -⟩ := completed_run hlints.completed
  have hsound : report.IsSound := isSound_outcomes hxs
  refine ⟨fun before i reply later hevents output houtput => ?_, hbyte.1, hbyte.2, hcode,
    selected, hselect, ?_, ?_, fun k x hx hfailed hbefore => ?_⟩
  · have hreplied := replied_run r (Program.runOptions o) host.runner s
    rw [hevents] at hreplied
    rw [hreplied.reply_eq] at houtput
    obtain ⟨ending, written, hspawn, hending⟩ := Host.code_reply houtput
    refine ⟨ending, written, hspawn, hending, ?_⟩
    rw [hending]
    exact ⟨ending.isByte_code.1, ending.isByte_code.2, Ending.code_eq_zero_iff⟩
  · rw [← hxs]
    exact keys_runCategories ..
  · have hzero : (Program.run args host.runner s).code = 0 ↔ report.exitCode = 0 := by
      rw [← hcode, Int.natCast_eq_zero, ← UInt8.toNat_inj]
      rfl
    rw [hzero, hsound.exitCode_eq_zero_iff, Report.failures, List.filter_eq_nil_iff]
    simp only [Bool.not_eq_true]
  · rw [hcode]
    exact Report.exitCode_of_firstFailure? (hsound.firstFailure?_of_getElem? hx hfailed hbefore)

namespace Example

/-- A registry file with one category. -/
def homeFile : String :=
  "[[category]]\nkey = \"js\"\nroots = [\"\"]\nextensions = [\"js\"]\n" ++
    "[category.tool]\nprogram = \"jslint\"\n"

/-- A source root with a registry file and a script. -/
def home : Tree where
  root := .file (Utf8.encode ".polylint.toml") { content := Utf8.encode homeFile } <|
    .file (Utf8.encode "a.js") {} .empty

/-- A host on which a signal ends every process. -/
def killing : Host Unit where
  spawn _ _ := (.ok (.killed ⟨9, by decide⟩, {}), ())
  files _ := home

/-- The registry of a source root, if there is one, and the report of a run. -/
def reportOf (runner : Runner Unit) : Option (Registry × Report) :=
  match Registry.discover home (.ofString "/") none with
  | .error _ => none
  | .ok r =>
    match ((r.run (Program.runOptions {})).run runner ()).value with
    | .error _ => none
    | .ok report => some (r, report)

/-- A tool that is killed by signal 9 is a failure with code 137, and the program leaves with
it. -/
theorem exitStatus_law_killing :
    ∃ o r report, Program.Lints [] killing.runner () o r report ∧
      report.outcomes.map (fun x => x.status) = [.failed (.toolReported 137)] ∧
      (Program.run [] killing.runner ()).code ≠ 0 ∧
      ((Program.run [] killing.runner ()).code.toNat : Int) = 137 := by
  have hsome : (reportOf killing.runner).any (fun x =>
      x.2.outcomes.map (fun x => x.status) = [.failed (.toolReported 137)]) = true := by
    decide +kernel
  obtain ⟨⟨r, report⟩, hreport, hstatus⟩ := (Option.any_eq_true _ _).mp hsome
  have hstatus : report.outcomes.map (fun x => x.status) = [.failed (.toolReported 137)] :=
    of_decide_eq_true hstatus
  unfold reportOf at hreport
  cases hregistry : Registry.discover home (.ofString "/") none with
  | error e =>
    rw [hregistry] at hreport
    cases hreport
  | ok r' =>
    rw [hregistry] at hreport
    cases hrun : ((r'.run (Program.runOptions {})).run killing.runner ()).value with
    | error e =>
      simp only [hrun] at hreport
      cases hreport
    | ok report' =>
      simp only [hrun] at hreport
      cases hreport
      have hlints : Program.Lints [] killing.runner () {} r report :=
        ⟨rfl, ⟨.ofString "/", rfl, hregistry⟩, rfl, hrun⟩
      obtain ⟨-, -, -, hcode, selected, -, -, hzero, hfirst⟩ :=
        exitStatus_law killing () [] {} r report hlints
      obtain ⟨x, hx, hfailed⟩ := List.map_eq_singleton_iff.mp hstatus
      have hself : report.outcomes[0]? = some x := by
        rw [hx]
        rfl
      have hisFailure : x.status.isFailure = true := by
        rw [hfailed]
        rfl
      refine ⟨{}, r, report, hlints, hstatus, fun hnone => ?_, ?_⟩
      · have hfine := hzero.mp hnone x (List.mem_of_getElem? hself)
        rw [hisFailure] at hfine
        cases hfine
      · rw [hfirst 0 x hself hisFailure nofun, hfailed]
        rfl

end Example

end LintRun
