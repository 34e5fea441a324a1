import CryptoSurvey.Proofs.Findings
import CryptoSurvey.Proofs.Identifiers
import CryptoSurvey.Proofs.SmallLetters

namespace CryptoSurvey

def Algorithm.InLowerCase (a : Algorithm) : Prop :=
  ∀ p ∈ a.patterns, Text.lowerCase p = p

theorem Algorithm.inLowerCase_configured (name : String) (aliases : List String)
    (constants : List Constant) : (configured name aliases constants).InLowerCase := by
  have hpatterns : (configured name aliases constants).patterns =
      (name :: aliases).map Text.lowerCase := rfl
  intro p hp
  rw [hpatterns] at hp
  obtain ⟨text, _, rfl⟩ := List.mem_map.1 hp
  exact Text.lowerCase_lowerCase text

namespace Registry

/-- Both names are registered, the first with higher priority. -/
def Before (r : Registry) (a b : String) : Prop :=
  ∃ i j, r.priority? a = some i ∧ r.priority? b = some j ∧ i < j

/-- The algorithm has a pattern that contains no pattern of an algorithm with higher priority. -/
def Unshadowed (r : Registry) (a : Algorithm) : Prop :=
  ∃ p ∈ a.patterns, ∀ b ∈ r.algorithms, r.Before b.name a.name →
    ∀ q ∈ b.patterns, ¬ q.toList <:+: p.toList

variable {r : Registry} {a b : Algorithm}

theorem NoLater.not_before {a b : String} (h : r.NoLater a b) : ¬ r.Before b a := by
  rintro ⟨j, i, hj, hi, hlt⟩
  obtain ⟨i', j', hi', hj', hle⟩ := h
  cases hi.symm.trans hi'
  cases hj.symm.trans hj'
  exact Nat.not_lt.2 hle hlt

theorem noLater_of_not_before (ha : a ∈ r.algorithms) (hb : b ∈ r.algorithms)
    (h : ¬ r.Before b.name a.name) : r.NoLater a.name b.name := by
  obtain ⟨i, _, hi, _⟩ := Names.noLater_self ⟨a, ha, rfl⟩
  obtain ⟨j, _, hj, _⟩ := Names.noLater_self ⟨b, hb, rfl⟩
  exact ⟨i, j, hi, hj, Nat.le_of_not_lt fun hlt => h ⟨j, i, hj, hi, hlt⟩⟩

section LowerCase

variable (h : ∀ a ∈ r.algorithms, a.InLowerCase)
include h

theorem hasPattern_iff {Q : List Char → Prop} (ha : a ∈ r.algorithms) :
    a.HasPattern Q ↔ ∃ p ∈ a.patterns, Q p.toList := by
  refine exists_congr fun p => and_congr_right fun hp => ?_
  rw [h a ha p hp]

theorem unshadowed_of_first {text : List Char} (ha : a ∈ r.algorithms)
    (hfirst : r.First (·.HasPattern (· <:+: text)) a.name) : r.Unshadowed a := by
  obtain ⟨a', ha', hname, hpattern, hbefore⟩ := hfirst
  cases eq_of_name_eq ha' ha hname
  obtain ⟨p, hp, hstands⟩ := (hasPattern_iff h ha).1 hpattern
  refine ⟨p, hp, ?_⟩
  intro b hb hlt q hq hinfix
  have hb' : b.HasPattern (· <:+: text) := (hasPattern_iff h hb).2 ⟨q, hq, hinfix.trans hstands⟩
  exact (hbefore b hb hb').not_before hlt

theorem Unshadowed.exists_first (ha : a ∈ r.algorithms) (hfree : r.Unshadowed a) :
    ∃ p ∈ a.patterns, r.First (·.HasPattern (· <:+: p.toList)) a.name := by
  obtain ⟨p, hp, hnone⟩ := hfree
  refine ⟨p, hp, a, ha, rfl, (hasPattern_iff h ha).2 ⟨p, hp, List.infix_rfl⟩, ?_⟩
  intro b hb hpattern
  obtain ⟨q, hq, hinfix⟩ := (hasPattern_iff h hb).1 hpattern
  exact noLater_of_not_before ha hb fun hlt => hnone b hb hlt q hq hinfix

theorem exists_algorithm?_iff (exclusions : Exclusions) (ha : a ∈ r.algorithms) :
    (∃ value, (Matcher.ofRegistry r exclusions).algorithm? value .identifier = some a.name) ↔
      r.Unshadowed a := by
  constructor
  · rintro ⟨value, hvalue⟩
    exact unshadowed_of_first h ha (Matcher.substring?_eq_some_iff.1 hvalue)
  · intro hfree
    obtain ⟨p, hp, hfirst⟩ := hfree.exists_first h ha
    refine ⟨p, Matcher.substring?_eq_some_iff.2 ?_⟩
    rw [h a ha p hp]
    exact hfirst

end LowerCase

end Registry

/-- No class, no method and no symbol of a library is attributed to the algorithm by name. -/
structure Report.NeverNames (report : Report) (algorithm : String) : Prop where
  inClasses : ∀ name, ¬ ShownInClass report.classes name (.nameMatch algorithm)
  inMethods : ∀ name n, ¬ ShownInMethod report.classes name n (.nameMatch algorithm)
  inLibraries : ∀ l ∈ report.libraries, l.symbols.get? algorithm = some []

theorem Native.symbols_of_examine {rules : RuleSet} {m : Matcher} {l : Library}
    {record : LibraryRecord} (h : examine rules m l = .ok record) :
    ∃ symbols, record.symbols = symbolsByAlgorithm rules.registry m symbols := by
  rw [examine] at h
  split at h
  · cases h
  · cases h
    exact ⟨_, rfl⟩

namespace Application

variable {rules : RuleSet} {a : Algorithm}

theorem neverNames_findings (ha : a ∈ rules.registry.algorithms)
    (hnone : ∀ value, rules.matcher.algorithm? value .identifier ≠ some a.name)
    (identity : Identity) (package? : Option Package) (libraries : List Library)
    (rejected : List SkippedLibrary) (elapsed : Nat) :
    (findings rules identity package? libraries rejected elapsed).NeverNames a.name where
  inClasses := by
    intro name hshown
    cases shownInClass_findings.1 hshown with
    | nameMatch _ _ hname => exact hnone name hname
  inMethods := by
    intro name n hshown
    cases shownInMethod_findings.1 hshown with
    | nameMatch _ _ _ _ hname => exact hnone n hname
  inLibraries := by
    intro record hrecord
    rw [libraries_findings] at hrecord
    obtain ⟨l, _, hl⟩ := List.mem_filterMap.1 hrecord
    obtain ⟨symbols, hsymbols⟩ := Native.symbols_of_examine (toOption_eq_some_iff.1 hl)
    rw [hsymbols]
    refine Native.get?_symbolsByAlgorithm.2 ⟨⟨a, ha, rfl⟩, ?_⟩
    rw [List.filter_eq_nil_iff]
    intro s _ hs
    exact hnone s (beq_iff_eq.1 hs)

/-- Configured patterns are in lower case. In a registry of such patterns, an algorithm is told by some
name if and only if it is not shadowed, and no survey ever reports a shadowed one by name. -/
theorem told_iff_unshadowed (rules : RuleSet) :
    (∀ name aliases constants, (Algorithm.configured name aliases constants).InLowerCase) ∧
      ((∀ a ∈ rules.registry.algorithms, a.InLowerCase) → ∀ a ∈ rules.registry.algorithms,
        ((∃ value, rules.matcher.algorithm? value .identifier = some a.name) ↔
          rules.registry.Unshadowed a) ∧
        (¬ rules.registry.Unshadowed a →
          ∀ identity package? libraries rejected d clocks report,
            surveyInputs rules identity package? libraries rejected d clocks = .ok report →
              report.NeverNames a.name)) := by
  refine ⟨Algorithm.inLowerCase_configured, ?_⟩
  intro h a ha
  have htold := Registry.exists_algorithm?_iff h rules.exclusions ha
  refine ⟨htold, ?_⟩
  intro hshadowed identity package? libraries rejected d clocks report hreport
  rw [eq_findings_of_surveyInputs _ _ _ hreport]
  refine neverNames_findings ha ?_ identity package? libraries rejected clocks.finish
  intro value hvalue
  exact hshadowed (htold.1 ⟨value, hvalue⟩)

/-- The name and the alias of the second algorithm contain the first, and so does one of the two
patterns of the last. -/
def overlapping : Registry where
  algorithms := [⟨"sm4", [], []⟩, ⟨"sm4gcm", ["mysm4"], []⟩, ⟨"aes", ["sm4aes"], []⟩]
  faultless := by decide +kernel

/-- A class and a method that spell the patterns of the second algorithm. -/
def overlappingNames : Package := ⟨none, [⟨"Sm4Gcm", [⟨"mySM4", false, none⟩]⟩], ∅⟩

theorem told_iff_unshadowed_overlapping :
    (∃ value, (Matcher.ofRegistry overlapping {}).algorithm? value .identifier = some "aes") ∧
      ∃ report, surveyInputs ⟨overlapping, {}, [], ∅⟩ ⟨"app.apk", none⟩ (some overlappingNames) [] []
          .unlimited .stopped = .ok report ∧
        report.NeverNames "sm4gcm" := by
  have hlower : ∀ a ∈ overlapping.algorithms, ∀ p ∈ a.patterns, Text.lowerCase p = p := by
    decide +kernel
  have hothers : ∀ b ∈ overlapping.algorithms, b.name ≠ "aes" →
      ∀ q ∈ b.patterns, ¬ q.toList <:+: "aes".toList := by
    decide
  have hgcm : ∀ p ∈ ["sm4gcm", "mysm4"], "sm4".toList <:+: p.toList := by decide
  obtain ⟨_, htold⟩ := told_iff_unshadowed ⟨overlapping, {}, [], ∅⟩
  constructor
  · obtain ⟨haes, _⟩ := htold hlower ⟨"aes", ["sm4aes"], []⟩ (by decide)
    refine haes.2 ⟨"aes", by decide, ?_⟩
    intro b hb hlt
    refine hothers b hb ?_
    intro hname
    have hself : overlapping.NoLater b.name b.name := Registry.Names.noLater_self ⟨b, hb, rfl⟩
    exact hself.not_before (hname ▸ hlt)
  · obtain ⟨_, hnever⟩ := htold hlower ⟨"sm4gcm", ["mysm4"], []⟩ (by decide)
    have hreport : ∃ report, surveyInputs ⟨overlapping, {}, [], ∅⟩ ⟨"app.apk", none⟩
        (some overlappingNames) [] [] .unlimited .stopped = .ok report := ⟨_, rfl⟩
    obtain ⟨report, hreport⟩ := hreport
    refine ⟨report, hreport, hnever ?_ _ _ _ _ _ _ _ hreport⟩
    rintro ⟨p, hp, hfree⟩
    exact hfree ⟨"sm4", [], []⟩ (by decide) ⟨0, 1, by decide, by decide, by decide⟩ "sm4"
      (by decide) (hgcm p hp)

end Application

end CryptoSurvey
