import CryptoSurvey.Proofs.Failure
import CryptoSurvey.Proofs.Looks
import CryptoSurvey.Proofs.Managed
import CryptoSurvey.Survey.Application

namespace CryptoSurvey

theorem Native.survey_eq (rules : RuleSet) (m : Matcher) (d : Deadline) (clock : Clock)
    (libraries : List Library) :
    survey rules m d clock libraries =
      d.watch clock libraries.length >>= fun _ => .ok (libraries.foldl (take rules m) {}) := by
  apply foldlM_zipIdx_eq
  rintro p ⟨l, i⟩
  rfl

def RuleSet.matcher (rules : RuleSet) : Matcher :=
  .ofRegistry rules.registry rules.exclusions

def Report.after (r : Report) (elapsed : Nat) : Report :=
  { r with counters := { r.counters with elapsed } }

namespace Application

/-- Decompiled code that is missing is a package with nothing in it. -/
def code (package? : Option Package) : Package :=
  package?.getD ⟨none, [], ∅⟩

def managedFindings (rules : RuleSet) (package? : Option Package) : ManagedPass :=
  Managed.findings rules.registry rules.matcher (code package?).classes (code package?).strings

def libraryFindings (rules : RuleSet) (libraries : List Library) : NativePass :=
  libraries.foldl (Native.take rules rules.matcher) {}

def findings (rules : RuleSet) (identity : Identity) (package? : Option Package)
    (libraries : List Library) (rejected : List SkippedLibrary) (elapsed : Nat) : Report :=
  .assemble rules.registry identity [managedFindings rules package?]
    ((libraryFindings rules libraries).withSkipped rejected) elapsed

/-- The number of looks of the pass over decompiled code. -/
def managedLooks (package? : Option Package) : Nat :=
  Managed.looks (code package?).classes (code package?).strings

theorem managedPass_eq (rules : RuleSet) (d : Deadline) (clock : Clock)
    (package? : Option Package) :
    managedPass rules d clock package? =
      d.watch clock (managedLooks package?) >>= fun _ => .ok (managedFindings rules package?) := by
  cases package? with
  | none =>
    have hnone : managedLooks none = 0 := by decide
    rw [hnone]
    rfl
  | some package => exact Managed.survey_eq _ _ d clock package.classes package.strings

section Inputs

variable (rules : RuleSet) (identity : Identity) (package? : Option Package)
variable (libraries : List Library) (rejected : List SkippedLibrary)

/-- A survey can make all its looks first, those of one pass and then those of the other. -/
theorem surveyInputs_eq (d : Deadline) (clocks : Clocks) :
    surveyInputs rules identity package? libraries rejected d clocks =
      d.watch clocks.managed (managedLooks package?) >>= fun _ =>
        d.watch clocks.native libraries.length >>= fun _ =>
          .ok (findings rules identity package? libraries rejected clocks.finish) := by
  rw [surveyInputs, managedPass_eq, nativePass, Native.survey_eq, bind_assoc]
  congr 1
  funext _
  change (d.watch _ _ >>= _) >>= _ = _
  rw [bind_assoc]
  rfl

variable {package? libraries} {d : Deadline} {clocks : Clocks}

theorem surveyInputs_eq_ok (hm : ¬ d.FindsSpent clocks.managed (managedLooks package?))
    (hn : ¬ d.FindsSpent clocks.native libraries.length) :
    surveyInputs rules identity package? libraries rejected d clocks =
      .ok (findings rules identity package? libraries rejected clocks.finish) := by
  rw [surveyInputs_eq, Deadline.watch_eq_ok hm]
  change (d.watch _ _ >>= _) = _
  rw [Deadline.watch_eq_ok hn]
  rfl

theorem surveyInputs_eq_timeout (h : d.FindsSpent clocks.managed (managedLooks package?) ∨
      d.FindsSpent clocks.native libraries.length) :
    ∃ budget, d.budget? = some budget ∧
      surveyInputs rules identity package? libraries rejected d clocks =
        .error (.timeout budget) := by
  rw [surveyInputs_eq]
  by_cases hm : d.FindsSpent clocks.managed (managedLooks package?)
  · obtain ⟨budget, hb, hw⟩ := Deadline.watch_eq_timeout hm
    rw [hw]
    exact ⟨budget, hb, rfl⟩
  · obtain ⟨budget, hb, hw⟩ := Deadline.watch_eq_timeout (h.resolve_left hm)
    rw [Deadline.watch_eq_ok hm, hw]
    exact ⟨budget, hb, rfl⟩

theorem surveyInputs_timeout_iff :
    (∃ budget, surveyInputs rules identity package? libraries rejected d clocks =
        .error (.timeout budget)) ↔
      d.FindsSpent clocks.managed (managedLooks package?) ∨
        d.FindsSpent clocks.native libraries.length := by
  constructor
  · rintro ⟨budget, h⟩
    by_contra hnone
    rw [not_or] at hnone
    rw [surveyInputs_eq_ok rules identity rejected hnone.1 hnone.2] at h
    cases h
  · intro h
    obtain ⟨budget, _, hs⟩ := surveyInputs_eq_timeout rules identity rejected h
    exact ⟨budget, hs⟩

theorem eq_findings_of_surveyInputs {report : Report}
    (h : surveyInputs rules identity package? libraries rejected d clocks = .ok report) :
    report = findings rules identity package? libraries rejected clocks.finish := by
  rw [surveyInputs_eq] at h
  obtain ⟨_, _, h⟩ := exists_of_bind_eq_ok h
  obtain ⟨_, _, h⟩ := exists_of_bind_eq_ok h
  cases h
  rfl

end Inputs

theorem managedLooks_pos {package? : Option Package} :
    0 < managedLooks package? ↔
      ∃ package, package? = some package ∧
        (package.classes ≠ [] ∨ package.strings.entries ≠ []) := by
  have hlength : 0 < managedLooks package? ↔
      0 < (code package?).classes.length ∨ 0 < (code package?).strings.entries.length := by
    simp only [managedLooks, Managed.looks, OrderedMap.size]
    omega
  rw [hlength, List.length_pos_iff, List.length_pos_iff]
  cases package? with
  | none =>
    constructor
    · rintro (h | h)
      · exact absurd rfl h
      · exact absurd rfl h
    · rintro ⟨_, h, _⟩
      cases h
  | some package => simp [code]

/-- A survey is done in full or not at all. A clock can show any times, and whatever the looks at it
find, the survey either times out or gives the report that it gives without a budget. It times out
just if a look that it makes finds its budget spent. -/
theorem surveyInputs_allOrNothing (rules : RuleSet) (identity : Identity)
    (package? : Option Package) (libraries : List Library) (rejected : List SkippedLibrary) :
    ∃ report : Report,
      (∀ clocks, surveyInputs rules identity package? libraries rejected .unlimited clocks =
        .ok (report.after clocks.finish)) ∧
      ∀ (d : Deadline) (clocks : Clocks),
        (surveyInputs rules identity package? libraries rejected d clocks =
            .ok (report.after clocks.finish) ∨
          ∃ budget, d.budget? = some budget ∧
            surveyInputs rules identity package? libraries rejected d clocks =
              .error (.timeout budget)) ∧
        ((∃ budget, surveyInputs rules identity package? libraries rejected d clocks =
            .error (.timeout budget)) ↔
          d.FindsSpent clocks.managed (managedLooks package?) ∨
            d.FindsSpent clocks.native libraries.length) ∧
        ((∀ i, d.isExpired (clocks.managed i) = true ∧ d.isExpired (clocks.native i) = true) →
          ((∃ budget, surveyInputs rules identity package? libraries rejected d clocks =
              .error (.timeout budget)) ↔
            (∃ package, package? = some package ∧
              (package.classes ≠ [] ∨ package.strings.entries ≠ [])) ∨ libraries ≠ [])) := by
  refine ⟨findings rules identity package? libraries rejected 0, ?_, ?_⟩
  · intro clocks
    apply surveyInputs_eq_ok
    · exact Deadline.not_findsSpent fun _ => rfl
    · exact Deadline.not_findsSpent fun _ => rfl
  · intro d clocks
    refine ⟨?_, surveyInputs_timeout_iff rules identity rejected, ?_⟩
    · by_cases h : d.FindsSpent clocks.managed (managedLooks package?) ∨
          d.FindsSpent clocks.native libraries.length
      · exact .inr (surveyInputs_eq_timeout rules identity rejected h)
      · rw [not_or] at h
        exact .inl (surveyInputs_eq_ok rules identity rejected h.1 h.2)
    · intro hexpired
      rw [surveyInputs_timeout_iff, Deadline.findsSpent_of_expired fun i => (hexpired i).1,
        Deadline.findsSpent_of_expired fun i => (hexpired i).2, managedLooks_pos,
        List.length_pos_iff]

def loneString : Package := ⟨none, [], StringTable.insert ∅ "AES" ⟨"Gone", "run"⟩⟩

theorem surveyInputs_allOrNothing_loneString :
    (∃ budget, surveyInputs ⟨∅, {}, [], ∅⟩ ⟨"app.apk", none⟩ (some loneString) [] []
      (.ofSeconds 0) ⟨fun _ => 1, fun _ => 1, 1⟩ = .error (.timeout budget)) ∧
    ¬ ∃ budget, surveyInputs ⟨∅, {}, [], ∅⟩ ⟨"app.apk", none⟩ none [] []
      (.ofSeconds 0) ⟨fun _ => 1, fun _ => 1, 1⟩ = .error (.timeout budget) := by
  obtain ⟨_, _, hlone⟩ :=
    surveyInputs_allOrNothing ⟨∅, {}, [], ∅⟩ ⟨"app.apk", none⟩ (some loneString) [] []
  obtain ⟨_, _, hnone⟩ := surveyInputs_allOrNothing ⟨∅, {}, [], ∅⟩ ⟨"app.apk", none⟩ none [] []
  constructor
  · refine ((hlone (.ofSeconds 0) ⟨fun _ => 1, fun _ => 1, 1⟩).2.2 fun _ => ⟨rfl, rfl⟩).2 ?_
    exact .inl ⟨loneString, rfl, .inr (List.cons_ne_nil _ _)⟩
  · rw [(hnone (.ofSeconds 0) ⟨fun _ => 1, fun _ => 1, 1⟩).2.2 fun _ => ⟨rfl, rfl⟩]
    rintro (⟨_, h, _⟩ | h)
    · cases h
    · exact h rfl

end Application

end CryptoSurvey
