import LintRun.Proofs.Json.Reading
import LintRun.Proofs.Run.Document

/-!
# The report as text is the report

`faithful_law` reads the text of a report back.  It denotes one value, which says what the
report says and no more: the exit code, and for each outcome an entry with these members and no
others (`Outcome.IsReportedBy`).

A name stands twice in no object (`Json.NamesApart`), so that it does not matter whether a reader
goes by the first member of a name or by the last.  For the counts of removed files this is so
because each reason has a name of its own (`Exclusion.name_injective`) and a report counts it
once.

The document is an ordinary value, and its text denotes that value and no other; this is the
law of documents in general (`Json.isDocument_render_iff`).  What is left is to say of the
value that it reports the outcomes, which is done member by member: which names there are, in
which order, and what stands at each.  An optional member is there exactly if there is
something to say, and the statements have both directions.

Paths are shown as far as they are text, as everywhere else; two paths may be shown alike.
-/

namespace LintRun

/-! ## 1. Objects

The standard leaves open what a name that stands twice means. -/

/-- The names of the members of an object. -/
def Json.names : Json → List String
  | .object members => members.map Prod.fst
  | _ => []

/-- **No object has two members of one name**, at any depth. -/
inductive Json.NamesApart : Json → Prop
  | string (s : String) : NamesApart (.string s)
  | number (n : Int) : NamesApart (.number n)
  | array {items : List Json} (h : ∀ v ∈ items, NamesApart v) : NamesApart (.array items)
  | object {members : List (String × Json)} (hnames : (members.map Prod.fst).Nodup)
      (h : ∀ m ∈ members, NamesApart m.2) : NamesApart (.object members)

theorem Exclusion.name_injective {e e' : Exclusion} (h : e.name = e'.name) : e = e' := by
  cases e <;> cases e' <;> first | rfl | exact absurd h (by decide)

/-- What an object of counts says of a reason is what the list says of it. -/
theorem lookup_excluded (excluded : List (Exclusion × Nat)) (e : Exclusion) :
    (excluded.map fun (e, n) => (e.name, Json.number n)).lookup e.name =
      (excluded.lookup e).map fun n => .number n := by
  induction excluded with
  | nil => rfl
  | cons entry excluded ih =>
    obtain ⟨e', n⟩ := entry
    rw [List.map_cons, List.lookup_cons, List.lookup_cons, ih]
    by_cases he : e = e'
    · subst he
      simp
    · have hname : (e.name == e'.name) = false :=
        beq_eq_false_iff_ne.mpr fun h => he (Exclusion.name_injective h)
      rw [hname, beq_eq_false_iff_ne.mpr he]

/-! ## 2. Entries

An entry has six members that are always there, and two that may be. -/

/-- The object of a file with a problem: the path as far as it is text, and what is wrong. -/
def problemEntry (p : Path × Problem) : Json :=
  .object [("file", .string (Utf8.decodeLossy p.1.bytes)), ("problem", .string p.2.text)]

/-- **An entry reports an outcome**: it tells of it, and it says what there is to say about the
status and nothing besides. -/
structure Outcome.IsReportedBy (x : Outcome) (entry : Json) : Prop extends x.IsToldBy entry where
  names : entry.names =
    ["key", "status", "exit_code", "candidates", "files", "excluded"] ++
      (if x.status = .clean then [] else ["detail"]) ++
      (if x.status.problems = [] then [] else ["problems"])
  detail : entry.member? "detail" = x.status.detail?.map .string
  /-- There is more to say unless the status is clean. -/
  detail_iff : (∃ d, entry.member? "detail" = some d) ↔ x.status ≠ .clean
  /-- There are problems if files have some. -/
  listed_iff : (∃ listed, entry.member? "problems" = some listed) ↔
    ∃ problems, problems ≠ [] ∧ x.status = .failed (.files problems)
  listed : ∀ problems, problems ≠ [] → x.status = .failed (.files problems) →
    entry.member? "problems" = some (.array (problems.map problemEntry))
  /-- Each reason has one member, with its count. -/
  reasons : ∃ counts, entry.member? "excluded" = some counts ∧
    counts.names = x.excluded.map (fun r => r.1.name) ∧
    ∀ e : Exclusion, counts.member? e.name = (x.excluded.lookup e).map fun n => .number n

/-- There is something to say about every status but the clean one. -/
theorem Status.detail?_eq_none_iff {status : Status} :
    status.detail? = none ↔ status = .clean := by
  cases status <;> simp [detail?]

theorem Status.problems_ne_nil_iff {status : Status} :
    status.problems ≠ [] ↔ ∃ problems, problems ≠ [] ∧ status = .failed (.files problems) := by
  constructor
  · intro h
    cases status with
    | clean => exact absurd rfl h
    | skipped reason => exact absurd rfl h
    | failed f =>
      cases f with
      | toolReported code => exact absurd rfl h
      | notStarted message => exact absurd rfl h
      | files problems => exact ⟨problems, h, rfl⟩
  · rintro ⟨problems, hne, rfl⟩
    exact hne

theorem names_problemMembers (problems : List (Path × Problem)) :
    (problemMembers problems).map Prod.fst = if problems = [] then [] else ["problems"] := by
  cases problems with
  | nil => rfl
  | cons p problems => rfl

theorem names_detail (status : Status) :
    (status.detail?.toList.map fun d => ("detail", Json.string d)).map Prod.fst =
      if status = .clean then [] else ["detail"] := by
  cases status with
  | clean => rfl
  | skipped reason => rfl
  | failed f => rfl

theorem member?_detail (x : Outcome) :
    x.document.member? "detail" = x.status.detail?.map .string := by
  show ((x.status.detail?.toList.map fun d => ("detail", Json.string d)) ++
    problemMembers x.status.problems).lookup "detail" = _
  cases x.status.detail? with
  | some d => rfl
  | none =>
    unfold problemMembers
    split <;> rfl

/-- **The entry of an outcome** reports it. -/
theorem Outcome.isReportedBy_document (x : Outcome) : x.IsReportedBy x.document where
  toIsToldBy := x.isToldBy_document
  names := by
    rw [← names_detail, ← names_problemMembers]
    simp [Json.names, document]
  detail := member?_detail x
  detail_iff := by
    rw [member?_detail, ← not_iff_not, not_not, ← Status.detail?_eq_none_iff]
    cases x.status.detail? <;> simp
  listed_iff := x.isToldBy_document.problems_iff.trans Status.problems_ne_nil_iff
  listed := by
    intro problems hne hstatus
    have hproblems : x.status.problems = problems := congrArg Status.problems hstatus
    rw [x.isToldBy_document.problems, hproblems, if_neg (by rwa [List.isEmpty_iff])]
    rfl
  reasons := by
    refine ⟨_, x.isToldBy_document.excluded, ?_, lookup_excluded x.excluded⟩
    simp [Json.names]

theorem namesApart_problemDocument (p : Path × Problem) :
    (problemDocument p).NamesApart := by
  refine .object (show ["file", "problem"].Nodup by decide) ?_
  simp only [List.forall_mem_cons]
  exact ⟨.string _, .string _, nofun⟩

/-- The entry of an outcome has no name twice if no reason is counted twice. -/
theorem Outcome.namesApart_document (x : Outcome) (h : (x.excluded.map Prod.fst).Nodup) :
    x.document.NamesApart := by
  have hnames := x.isReportedBy_document.names
  refine .object ?_ ?_
  · show x.document.names.Nodup
    rw [hnames]
    split <;> split <;> decide
  · have hexcluded : (Json.object
        (x.excluded.map fun (e, n) => (e.name, Json.number n))).NamesApart := by
      refine .object ?_ ?_
      · rw [List.map_map]
        show (x.excluded.map (Exclusion.name ∘ Prod.fst)).Nodup
        rw [← List.map_map]
        exact h.map fun _ _ => Exclusion.name_injective
      · simp only [List.forall_mem_map]
        exact fun r _ => .number _
    have hproblems : ∀ m ∈ problemMembers x.status.problems, m.2.NamesApart := by
      unfold problemMembers
      split
      · nofun
      · rw [List.forall_mem_singleton]
        refine .array ?_
        rw [List.forall_mem_map]
        exact fun p _ => namesApart_problemDocument p
    simp only [List.forall_mem_append, List.forall_mem_cons, List.forall_mem_map]
    exact ⟨⟨⟨.string _, .string _, .number _, .number _, .number _, hexcluded, nofun⟩,
      fun d _ => .string d⟩, hproblems⟩

/-! ## 3. The law

It holds of every report, whether a run comes to it or not; only that reasons are counted once
is something that runs see to. -/

/-- **The text of a report is faithful.**  It is one document, which denotes one value: the exit
code of the run and a list with an entry for each outcome, in order, that reports it.  No name
stands twice in an object, provided that no outcome counts a reason twice. -/
theorem faithful_law (report : Report) :
    ∃ entries,
      (∀ v, Json.IsDocument report.json v ↔
        v = .object [("exit_code", .number report.exitCode), ("categories", .array entries)]) ∧
      Json.read? report.json =
        some (.object [("exit_code", .number report.exitCode), ("categories", .array entries)]) ∧
      List.Forall₂ Outcome.IsReportedBy report.outcomes entries ∧
      ((∀ x ∈ report.outcomes, (x.excluded.map Prod.fst).Nodup) →
        (Json.object [("exit_code", .number report.exitCode),
          ("categories", .array entries)]).NamesApart) := by
  refine ⟨report.outcomes.map Outcome.document, fun v => Json.isDocument_render_iff,
    Json.read?_eq_some_iff.mpr (Json.isDocument_render _), ?_, fun hreasons => ?_⟩
  · rw [List.forall₂_map_right_iff, List.forall₂_same]
    exact fun x _ => x.isReportedBy_document
  · refine .object (show ["exit_code", "categories"].Nodup by decide) ?_
    simp only [List.forall_mem_cons]
    refine ⟨.number _, .array ?_, nofun⟩
    rw [List.forall_mem_map]
    exact fun x hx => x.namesApart_document (hreasons x hx)

namespace Example

/-- A report of texts that are hard to write: quotes, backslashes, control characters, text that
is not ASCII, and a path that is no text. -/
def awkward : Report where
  outcomes := [
    { key := "quo\"te\\", candidates := 3, files := [.ofString "/α"],
      excluded := [(.blacklisted, 1), (.notChanged, 1)], status := .clean },
    { key := "\x00\x1f\x7f", candidates := 1, files := [⟨[47, 0xFF, 34]⟩], excluded := [],
      status := .failed (.files [(⟨[47, 0xFF, 34]⟩, .notStarted "tab\tline\n")]) }]

/-- Nothing is lost of what is hard to write, but for the byte that is no text. -/
theorem faithful_law_awkward :
    ∃ first second,
      Json.read? awkward.json =
        some (.object [("exit_code", .number 1), ("categories", .array [first, second])]) ∧
      first.names = ["key", "status", "exit_code", "candidates", "files", "excluded"] ∧
      first.member? "key" = some (.string "quo\"te\\") ∧
      first.member? "excluded" =
        some (.object [("blacklisted", .number 1), ("not_changed", .number 1)]) ∧
      second.member? "key" = some (.string "\x00\x1f\x7f") ∧
      second.member? "detail" = some (.string "1 file failed") ∧
      second.member? "problems" = some (.array [.object [
        ("file", .string "/\uFFFD\""), ("problem", .string "tab\tline\n")]]) ∧
      (Json.object [("exit_code", .number 1), ("categories", .array [first, second])]).NamesApart :=
        by
  obtain ⟨entries, -, hread, hentries, hapart⟩ := faithful_law awkward
  replace hapart := hapart (by decide)
  cases hentries with
  | cons hfirst hrest =>
    cases hrest with
    | cons hsecond hnone =>
      cases hnone
      refine ⟨_, _, hread, hfirst.names, hfirst.key, hfirst.excluded, hsecond.key, hsecond.detail,
        hsecond.listed _ (by decide) rfl, hapart⟩

end Example

end LintRun
