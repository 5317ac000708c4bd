import LintRun.CommandLine.Program
import LintRun.Proofs.CommandLine.Arguments
import LintRun.Proofs.Run.Independence
import LintRun.Proofs.Run.Phases

/-!
# The order and the spelling of a command line

Arguments ask for some options exactly if a draft that holds the options they write comes to them
(`ofArguments_eq_ok_iff`).  If arguments are put in another order, with flags spelled in another
way, they therefore ask for options that differ in the order of switches and names at most
(`Options.Rearranges`).  A request does not depend on the order of its names, so that both command
lines come to the same run (`rearranging_law`).

The chain has four links, and an order or a spelling is lost at each.  Spelling is lost where
arguments become a row of given options (`Writes`); the order of options of different kinds,
where the row becomes a draft (`Draft.Holds.perm`); the order of switches, where it is asked
whether a switch is on; and the order of names, where categories are selected
(`select_of_perm`).

What is left of the order of names is the name in the error, if some are unknown: of two
unknown names the one that comes first is reported.  Both command lines then end on the
selection with the same exit code, and the law says so and does not say that the texts are
equal.
-/

namespace LintRun

/-! ## 1. Options

Languages are switches on the command line and names in a request, so the switches are in the
order of the request as well. -/

/-- **The same options** but for the order of switches and names. -/
structure Options.Rearranges (o' o : Options) : Prop where
  switches : o'.switches.Perm o.switches
  only : o'.only.Perm o.only
  root : o'.root = o.root
  config : o'.config = o.config
  format : o'.format = o.format

namespace Options.Rearranges

variable {o o' : Options} (h : o'.Rearranges o)

include h

/-- Whether a switch is on does not depend on when it was turned on. -/
theorem has_eq (s : Switch) : o'.has s = o.has s := by
  rw [has, has, List.contains_eq_mem, List.contains_eq_mem, decide_eq_decide]
  exact h.switches.mem_iff

/-- **The same names are asked for**: those of switches in the same order. -/
theorem selected_perm : o'.selected.Perm o.selected := by
  have hlanguages : languages.filter (fun l => o'.has l.1) = languages.filter fun l => o.has l.1 :=
    List.filter_congr fun l _ => h.has_eq l.1
  rw [selected, selected, hlanguages]
  exact h.only.append_left _

/-- All that a run is asked for is the same, but for the order of its names. -/
theorem runOptions_eq :
    Program.runOptions o' = { Program.runOptions o with categories := o'.selected } := by
  unfold Program.runOptions
  rw [h.has_eq, h.has_eq, h.has_eq]

end Options.Rearranges

/-! ## 2. Arguments

Reading arguments from the start, nothing is pending, and what is given is held by a draft or
is a misuse. -/

section Arguments

variable {gs gs' : List Given} {args args' : List (List UInt8)} {o : Options}

theorem orMisuse_eq_ok_iff {α : Type} {x : Except Misuse α} {a : α} :
    orMisuse x = .ok a ↔ x = .ok a := by
  cases x <;> simp [orMisuse, Except.mapError]

/-- **What arguments ask for** is what the options they write come to. -/
theorem ofArguments_eq_ok_iff (h : Writes gs args) :
    Options.ofArguments args = .ok o ↔ ∃ d : Draft, d.Holds gs ∧ d.finish = o := by
  rw [Options.ofArguments, map_eq_ok_iff, takeArguments_of_writes h]
  refine exists_congr fun d => and_congr_left fun _ => ?_
  rw [orMisuse_eq_ok_iff]
  exact Draft.giveAll_eq_ok_iff

/-- All arguments that ask for a run write options. -/
theorem exists_writes_of_ofArguments (h : Options.ofArguments args = .ok o) :
    ∃ gs, Writes gs args := by
  obtain ⟨d, hd, -⟩ := map_eq_ok_iff.mp h
  obtain ⟨k, _, _, _, hwait, -⟩ | ⟨-, hwrites⟩ := exists_writes hd
  · cases hwait
  · exact hwrites

/-- **The order of options** and their spelling change the order of switches and names at
most. -/
theorem ofArguments_of_perm (h : Writes gs args) (h' : Writes gs' args') (hperm : gs'.Perm gs)
    (ho : Options.ofArguments args = .ok o) :
    ∃ o', Options.ofArguments args' = .ok o' ∧ o'.Rearranges o := by
  obtain ⟨d, hd, rfl⟩ := (ofArguments_eq_ok_iff h).mp ho
  obtain ⟨switches, only, hd', hswitches, honly⟩ := hd.perm hperm.symm
  exact ⟨_, (ofArguments_eq_ok_iff h').mpr ⟨_, hd', rfl⟩, hswitches, honly, rfl, rfl, rfl⟩

end Arguments

/-! ## 3. Runs

The root, the registry file and whether categories are listed decide how far the program gets
before it selects.  Two command lines with these alike part ways at the selection, if at all.
-/

namespace Program

variable {σ : Type} {r : Registry} {o o' : Options}

/-- **A run over an unknown name** ends before anything is started. -/
theorem lintTree_of_unknown {e : RegistryError} (h : r.select (runOptions o).categories = .error e)
    (runner : Runner σ) (s : σ) : lintTree r o runner s = failed e.message e.causes := by
  simp only [lintTree, events_of_unknown h, (run_of_unknown h).2]
  rfl

/-- **A run depends on its names through what they select.** -/
theorem run_of_same_selection (h : o'.Rearranges o)
    (hselect : r.select (runOptions o').categories = r.select (runOptions o).categories) :
    (r.run (runOptions o') : Action σ _) = r.run (runOptions o) := by
  rw [h.runOptions_eq]
  exact run_congr_select hselect

/-- Up to the run over its categories the program goes by the root, the registry file and
whether categories are listed. -/
theorem carryOut_eq_or_lintTree (hroot : o'.root = o.root) (hconfig : o'.config = o.config)
    (hlist : o'.has .list = o.has .list) (runner : Runner σ) (s : σ) :
    carryOut o' runner s = carryOut o runner s ∨
      ∃ r, carryOut o runner s = lintTree r o runner s ∧
        carryOut o' runner s = lintTree r o' runner s := by
  unfold carryOut
  simp only [hroot, hconfig, hlist]
  split
  · exact .inl rfl
  · split
    · exact .inl rfl
    · rename_i r _
      split
      · exact .inl rfl
      · exact .inr ⟨r, rfl, rfl⟩

theorem lintTree_of_same_selection (h : o'.Rearranges o)
    (hselect : r.select (runOptions o').categories = r.select (runOptions o).categories)
    (runner : Runner σ) (s : σ) : lintTree r o' runner s = lintTree r o runner s := by
  have hrun := run_of_same_selection (σ := σ) h hselect
  have hreport (report : Report) : reportText o' report = reportText o report := by
    rw [reportText, reportText, h.format, h.has_eq]
  unfold lintTree
  simp only [hrun, hreport]

/-- **Options in another order** leave the same, or fail on the selection as well. -/
theorem carryOut_of_rearranges (h : o'.Rearranges o) (runner : Runner σ) (s : σ) :
    carryOut o' runner s = carryOut o runner s ∨
      ∃ e e' : RegistryError, carryOut o runner s = failed e.message e.causes ∧
        carryOut o' runner s = failed e'.message e'.causes := by
  obtain hsame | ⟨r, hlint, hlint'⟩ :=
    carryOut_eq_or_lintTree h.root h.config (h.has_eq .list) runner s
  · exact .inl hsame
  · rw [hlint, hlint']
    rcases Registry.select_of_perm (r := r) h.selected_perm with
      ⟨selected, hselect, hselect'⟩ | ⟨e, e', hselect, hselect'⟩
    · exact .inl (lintTree_of_same_selection h (hselect'.trans hselect.symm) runner s)
    · exact .inr ⟨e, e', lintTree_of_unknown hselect runner s,
        lintTree_of_unknown hselect' runner s⟩

end Program

/-- **The order and the spelling of a command line do not matter.**  All arguments that ask for a
run are a row of options, each a switch by any of its names or a setting by any of its names with
its value, and after them the mark that no flags come, or not.  Any other arguments that write
these options, in whatever order, ask for a run as well: with the same switches on, the same root,
registry file and format, and the same names as often.  Whatever the registry, either the same
categories are selected in the same order and the run is the same, or both runs end on the
selection with nothing done; and the program leaves with the same exit code either way. -/
theorem rearranging_law {σ : Type} :
    (∀ args o, Options.ofArguments args = .ok o → ∃ gs, Writes gs args) ∧
    ∀ (gs gs' : List Given) (args args' : List (List UInt8)) (o : Options),
      Writes gs args → Writes gs' args' → gs'.Perm gs → Options.ofArguments args = .ok o →
      ∃ o', Options.ofArguments args' = .ok o' ∧
        (∀ switch, o'.has switch = o.has switch) ∧ o'.root = o.root ∧ o'.config = o.config ∧
        o'.format = o.format ∧ o'.only.Perm o.only ∧
        (∃ names, names.Perm (Program.runOptions o).categories ∧
          Program.runOptions o' = { Program.runOptions o with categories := names }) ∧
        (∀ r : Registry,
          (∃ selected, r.select (Program.runOptions o).categories = .ok selected ∧
            r.select (Program.runOptions o').categories = .ok selected ∧
            (r.run (Program.runOptions o') : Action σ _) = r.run (Program.runOptions o)) ∨
          ∃ e e', r.select (Program.runOptions o).categories = .error e ∧
            r.select (Program.runOptions o').categories = .error e' ∧
            ∀ (runner : Runner σ) (s : σ),
              ((r.run (Program.runOptions o)).run runner s).value = .error (.registry e) ∧
              ((r.run (Program.runOptions o')).run runner s).value = .error (.registry e') ∧
              ((r.run (Program.runOptions o)).run runner s).events = [.entered .selecting] ∧
              ((r.run (Program.runOptions o')).run runner s).events = [.entered .selecting]) ∧
        ∀ (runner : Runner σ) (s : σ),
          (Program.run args' runner s).code = (Program.run args runner s).code ∧
          (Program.run args' runner s = Program.run args runner s ∨
            ∃ e e' : RegistryError,
              Program.run args runner s = Program.failed e.message e.causes ∧
              Program.run args' runner s = Program.failed e'.message e'.causes) := by
  refine ⟨fun args o => exists_writes_of_ofArguments, fun gs gs' args args' o h h' hperm ho => ?_⟩
  obtain ⟨o', ho', hsame⟩ := ofArguments_of_perm h h' hperm ho
  refine ⟨o', ho', hsame.has_eq, hsame.root, hsame.config, hsame.format, hsame.only,
    ⟨_, hsame.selected_perm, hsame.runOptions_eq⟩, fun r => ?_, fun runner s => ?_⟩
  · rcases Registry.select_of_perm (r := r) hsame.selected_perm with
      ⟨selected, hselect, hselect'⟩ | ⟨e, e', hselect, hselect'⟩
    · exact .inl ⟨selected, hselect, hselect',
        Program.run_of_same_selection hsame (hselect'.trans hselect.symm)⟩
    · exact .inr ⟨e, e', hselect, hselect', fun runner s =>
        ⟨(run_of_unknown hselect).2, (run_of_unknown hselect').2,
          events_of_unknown hselect runner s, events_of_unknown hselect' runner s⟩⟩
  · have hcarry := Program.carryOut_of_rearranges hsame runner s
    simp only [Program.run, ho, ho']
    refine ⟨?_, hcarry⟩
    obtain heq | ⟨e, e', hfailed, hfailed'⟩ := hcarry
    · rw [heq]
    · rw [hfailed, hfailed']
      rfl

namespace Example

/-- A command line with short names. -/
def terse : List (List UInt8) :=
  ["-cv", "--only", "js", "--root=/", "--cpp", "--only=py"].map Utf8.encode

/-- The same in other words, from back to front. -/
def wordy : List (List UInt8) :=
  ["--only", "py", "--cxx", "--root", "/", "--only=js", "--verbose", "--changed", "--"].map
    Utf8.encode

/-- The options that `terse` writes. -/
def asked : List Given :=
  [.on .changed, .on .verbose, .set .only (Utf8.encode "js"), .set .root (Utf8.encode "/"),
    .on .cc, .set .only (Utf8.encode "py")]

theorem writes_terse : Writes asked terse := by
  have hshort : List.Forall₂ IsShortFor [99, 118] [.changed, .verbose] :=
    .cons ⟨'c', by decide, rfl⟩ (.cons ⟨'v', by decide, rfl⟩ .nil)
  exact .cons (.short (by decide) hshort) <|
    .cons (@Written.separate "only" _ _ (by decide) (.inr (by decide +kernel))) <|
    .cons (@Written.attached "root" _ _ (by decide)) <|
    .cons (@Written.long "cpp" _ (by decide)) <|
    .cons (@Written.attached "only" _ _ (by decide)) .nil

theorem writes_wordy : Writes asked.reverse wordy :=
  .cons (@Written.separate "only" _ _ (by decide) (.inr (by decide +kernel))) <|
  .cons (@Written.long "cxx" _ (by decide)) <|
  .cons (@Written.separate "root" _ _ (by decide) (.inr (by decide +kernel))) <|
  .cons (@Written.attached "only" _ _ (by decide)) <|
  .cons (@Written.long "verbose" _ (by decide)) <|
  .cons (@Written.long "changed" _ (by decide)) .endMark

/-- Short names behind one dash, other names of the same switches, values attached and apart,
from back to front and with the mark at the end. -/
theorem rearranging_law_wordy :
    ∃ o o', Options.ofArguments terse = .ok o ∧ Options.ofArguments wordy = .ok o' ∧
      (Program.runOptions o).categories = ["c++", "js", "py"] ∧
      (Program.runOptions o').categories = ["c++", "py", "js"] ∧ o'.root = o.root ∧
      Program.runOptions o' =
        { Program.runOptions o with categories := (Program.runOptions o').categories } ∧
      ∀ (runner : Runner Unit),
        (Program.run wordy runner ()).code = (Program.run terse runner ()).code := by
  obtain ⟨o, ho, hnames⟩ : ∃ o, Options.ofArguments terse = .ok o ∧
      (Program.runOptions o).categories = ["c++", "js", "py"] := ⟨_, rfl, by decide +kernel⟩
  obtain ⟨o', ho', -, hroot, -, -, -, ⟨names, -, hoptions⟩, -, hrun⟩ :=
    (rearranging_law (σ := Unit)).2 asked asked.reverse terse wordy o writes_terse writes_wordy
      (List.reverse_perm asked) ho
  refine ⟨o, o', ho, ho', hnames, ?_, hroot, ?_, fun runner => (hrun runner ()).1⟩
  · have hselected : (Options.ofArguments wordy).map Options.selected =
        .ok ["c++", "py", "js"] := by decide +kernel
    rw [ho'] at hselected
    exact Except.ok.inj hselected
  · rw [hoptions]

end Example

end LintRun
