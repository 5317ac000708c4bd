import LintRun.Proofs.Registry.Validity
import LintRun.Proofs.Text.Lines
import LintRun.Proofs.Toml.Value

/-!
# The signal in what a tool says

What is shown of a text are the lines that it is made of, but for those that some pattern
matches (`signal_of_textOf`).  So nothing is lost or merged where texts meet (`signal_append`),
what is shown and read again is shown unchanged (`signal_intercalate_signal`), and more patterns
show less (`signal_sublist`), whichever way the patterns are written (`patterns_subset`).

Showing is a filter on lines, so the law is mostly about lines and is proved where they are
(`TextOf`).  What is particular to noise is that the filter is by "no pattern matches".  It is
the same after itself, which gives that what is shown is shown again; and it is decided by the
set of patterns, so that neither their order nor their repetition shows, and a pattern more can
only take away.

What it is for a pattern to occur in a line is not opened up: the law holds of whatever
matching there is.
-/

namespace LintRun

namespace Noise

variable {n n' : Noise} {text text' ends line : String} {lines : List String}

theorem hides_eq_false_iff : n.hides line = false ↔ ∀ p ∈ n.patterns, p.occursIn line = false := by
  rw [hides, List.any_eq_false]
  simp only [Bool.not_eq_true]

/-- **What is shown of a text** made of lines: those that no pattern matches. -/
theorem signal_of_textOf (h : TextOf lines text) :
    n.signal text = lines.filter fun line => ∀ p ∈ n.patterns, p.occursIn line = false := by
  rw [signal, textLines_of_textOf h]
  refine List.filter_congr fun line _ => ?_
  rw [Bool.eq_iff_iff, Bool.not_eq_true', hides_eq_false_iff, decide_eq_true_iff]

/-- **Line ends between two texts** keep what is shown of them apart. -/
theorem signal_append (hends : IsLineEnds ends) (hne : ends ≠ "") :
    n.signal (text ++ ends ++ text') = n.signal text ++ n.signal text' := by
  rw [signal, textLines_append hends hne, List.filter_append]
  rfl

/-- **What is shown**, put together and read again, is shown unchanged. -/
theorem signal_intercalate_signal (hends : IsLineEnds ends) (hne : ends ≠ "") :
    n.signal (ends.intercalate (n.signal text)) = n.signal text := by
  have hlines : ∀ line ∈ n.signal text, IsLine line := fun line hline =>
    (textOf_textLines text).isLine line (List.mem_of_mem_filter hline)
  rw [signal_of_textOf (textOf_intercalate hlines hends hne),
    signal_of_textOf (textOf_textLines text), List.filter_filter]
  simp only [Bool.and_self]

/-- **More patterns show less.** -/
theorem signal_sublist (h : n.patterns ⊆ n'.patterns) (text : String) :
    (n'.signal text).Sublist (n.signal text) := by
  rw [signal_of_textOf (textOf_textLines text), signal_of_textOf (textOf_textLines text)]
  refine List.monotone_filter_right _ fun line hline => ?_
  rw [decide_eq_true_iff] at hline ⊢
  exact fun p hp => hline p (h hp)

/-- **The patterns of noise** are what its texts write. -/
theorem mem_patterns_iff {texts : List String} (h : ofTexts texts = .ok n) {p : Pattern} :
    p ∈ n.patterns ↔ ∃ t ∈ texts, Pattern.parse t = .ok p := by
  have hwrite := ofTexts_eq_ok_iff.mp h
  constructor
  · exact fun hp => Toml.exists_of_mem_forall₂ hwrite hp
  · rintro ⟨t, ht, hparse⟩
    have hback : List.Forall₂ (fun p t => Pattern.parse t = .ok p) n.patterns texts := hwrite.flip
    obtain ⟨q, hq, hparse'⟩ := Toml.exists_of_mem_forall₂ hback ht
    cases hparse.symm.trans hparse'
    exact hq

/-- More texts write more patterns. -/
theorem patterns_subset {texts texts' : List String} (h : ofTexts texts = .ok n)
    (h' : ofTexts texts' = .ok n') (hsub : texts ⊆ texts') : n.patterns ⊆ n'.patterns := by
  intro p hp
  obtain ⟨t, ht, hparse⟩ := (mem_patterns_iff h).mp hp
  exact (mem_patterns_iff h').mpr ⟨t, hsub ht, hparse⟩

end Noise

/-- **The law of noise.**  Every text is made of one list of lines, the longest stretches in it
without carriage returns and line feeds, and what is shown of it are those that no pattern
matches, in order and each as often as it stands there.  With line ends between them, of two
texts is shown what is shown of each.  What is shown, put together line by line, is shown again
unchanged.  Whoever adds patterns, anywhere among the others, takes lines away and adds none. -/
theorem signal_law (n : Noise) :
    (∀ text, ∃! lines, TextOf lines text) ∧
    (∀ lines text, TextOf lines text →
      n.signal text = lines.filter fun line => ∀ p ∈ n.patterns, p.occursIn line = false) ∧
    (∀ text ends text', IsLineEnds ends → ends ≠ "" →
      n.signal (text ++ ends ++ text') = n.signal text ++ n.signal text') ∧
    (∀ text, n.signal ("\n".intercalate (n.signal text)) = n.signal text) ∧
    (∀ n' : Noise, n.patterns ⊆ n'.patterns → ∀ text, (n'.signal text).Sublist (n.signal text)) ∧
    ∀ texts texts' n', Noise.ofTexts texts = .ok n → Noise.ofTexts texts' = .ok n' →
      texts ⊆ texts' → ∀ text, (n'.signal text).Sublist (n.signal text) := by
  refine ⟨fun text => ?_, fun lines text => Noise.signal_of_textOf,
    fun text ends text' => Noise.signal_append,
    fun text => Noise.signal_intercalate_signal (by decide) (by decide),
    fun n' => Noise.signal_sublist, fun texts texts' n' h h' hsub => ?_⟩
  · exact ⟨textLines text, textOf_textLines text, fun lines h => (textLines_of_textOf h).symm⟩
  · exact Noise.signal_sublist (Noise.patterns_subset h h' hsub)

namespace Example

/-- What a checker says, progress and findings, with different line ends. -/
def chatter : String :=
  "Done processing a.cc\r\na.cc:10: no blank\n\nDone processing b.h\nTotal errors found: 0\r"

/-- The noise that some texts describe; nothing if one writes no pattern. -/
def noiseOf (texts : List String) : Noise := ((Noise.ofTexts texts).toOption).getD .none

theorem ofTexts_noiseOf (texts : List String)
    (h : (Noise.ofTexts texts).toOption.isSome = true) :
    Noise.ofTexts texts = .ok (noiseOf texts) := by
  unfold noiseOf
  cases hn : Noise.ofTexts texts with
  | error e =>
    rw [hn] at h
    cases h
  | ok n => rfl

/-- Two patterns hide what one of them leaves, over four kinds of line ends. -/
theorem signal_law_chatter :
    ∃ n n', Noise.ofTexts ["^Done processing "] = .ok n ∧
      Noise.ofTexts ["^Total errors found: 0$", "^Done processing "] = .ok n' ∧
      TextOf ["Done processing a.cc", "a.cc:10: no blank", "Done processing b.h",
        "Total errors found: 0"] chatter ∧
      n.signal chatter = ["a.cc:10: no blank", "Total errors found: 0"] ∧
      n.signal (chatter ++ "\r\n" ++ chatter) = n.signal chatter ++ n.signal chatter ∧
      n'.signal chatter = ["a.cc:10: no blank"] ∧
      (n'.signal chatter).Sublist (n.signal chatter) := by
  have hn := ofTexts_noiseOf ["^Done processing "] (by decide +kernel)
  have hn' := ofTexts_noiseOf ["^Total errors found: 0$", "^Done processing "]
    (by decide +kernel)
  obtain ⟨-, hshown, happend, -, -, hmore⟩ := signal_law (noiseOf ["^Done processing "])
  obtain ⟨-, hshown', -⟩ :=
    signal_law (noiseOf ["^Total errors found: 0$", "^Done processing "])
  have hlines : TextOf ["Done processing a.cc", "a.cc:10: no blank", "Done processing b.h",
      "Total errors found: 0"] chatter := by decide
  refine ⟨_, _, hn, hn', hlines, ?_, happend _ _ _ (by decide) (by decide), ?_,
    hmore _ _ _ hn hn' (by simp) chatter⟩
  · rw [hshown _ _ hlines]
    decide +kernel
  · rw [hshown' _ _ hlines]
    decide +kernel

end Example

end LintRun
