import CryptoSurvey.Proofs.Attribution
import CryptoSurvey.Proofs.Findings
import CryptoSurvey.Proofs.Libraries

namespace CryptoSurvey

namespace Registry

variable {r r' : Registry} {n : Algorithm} (h : r'.algorithms = r.algorithms ++ [n])
include h

theorem mem_of_mem {a : Algorithm} (ha : a ∈ r.algorithms) : a ∈ r'.algorithms := by
  rw [h]
  exact List.mem_append_left _ ha

theorem not_names_last : ¬ r.Names n.name := by
  rintro ⟨a, ha, hname⟩
  have hnodup := r'.nodup_names
  rw [h, List.map_append, List.nodup_append] at hnodup
  exact hnodup.2.2 a.name (List.mem_map_of_mem ha) n.name List.mem_cons_self hname

theorem mem_of_names {a : Algorithm} (ha : a ∈ r'.algorithms) (hname : r.Names a.name) :
    a ∈ r.algorithms := by
  rw [h, List.mem_append, List.mem_singleton] at ha
  rcases ha with ha | rfl
  · exact ha
  · exact absurd hname (not_names_last h)

end Registry

namespace Matcher

variable {r r' : Registry} {n : Algorithm} (h : r'.algorithms = r.algorithms ++ [n])
variable {exclusions : Exclusions} {value a : String} {kind : TextKind}
include h

theorem patterns_append :
    (ofRegistry r' exclusions).patterns = (ofRegistry r exclusions).patterns ++
      n.patterns.map fun p => (Text.lowerCase p, n.name) := by
  rw [ofRegistry, ofRegistry, h, List.flatMap_append, List.flatMap_singleton]

theorem algorithm?_append :
    (ofRegistry r' exclusions).algorithm? value kind =
        (ofRegistry r exclusions).algorithm? value kind ∨
      (ofRegistry r exclusions).algorithm? value kind = none ∧
        (ofRegistry r' exclusions).algorithm? value kind = some n.name := by
  rcases algorithm?_cases exclusions value kind with hnone | ⟨test, htest⟩
  · exact .inl ((hnone (ofRegistry r' exclusions).patterns).trans (hnone _).symm)
  · have hold : (ofRegistry r exclusions).algorithm? value kind =
        ((ofRegistry r exclusions).patterns.find? fun p => test p.1).map (·.2) := htest _
    have hnew : (ofRegistry r' exclusions).algorithm? value kind =
        (((ofRegistry r exclusions).patterns.find? fun p => test p.1).or
          ((n.patterns.map fun p => (Text.lowerCase p, n.name)).find? fun p => test p.1)).map
            (·.2) := by
      rw [← List.find?_append, ← patterns_append h]
      exact htest _
    cases hfound : (ofRegistry r exclusions).patterns.find? (fun p => test p.1) with
    | some p =>
      rw [hfound] at hold hnew
      exact .inl (hnew.trans hold.symm)
    | none =>
      rw [hfound] at hold hnew
      cases hlast : (n.patterns.map fun p => (Text.lowerCase p, n.name)).find?
          (fun p => test p.1) with
      | none =>
        rw [hlast] at hnew
        exact .inl (hnew.trans hold.symm)
      | some p =>
        obtain ⟨_, _, rfl⟩ := List.mem_map.1 (List.mem_of_find?_eq_some hlast)
        rw [hlast] at hnew
        exact .inr ⟨hold, hnew⟩

theorem algorithm?_eq_some_iff :
    (ofRegistry r exclusions).algorithm? value kind = some a ↔
      (ofRegistry r' exclusions).algorithm? value kind = some a ∧ r.Names a := by
  rcases @algorithm?_append r r' n h exclusions value kind with hsame | ⟨hold, hnew⟩
  · rw [hsame]
    exact (and_iff_left_of_imp names_of_algorithm?).symm
  · rw [hold, hnew]
    constructor
    · intro hnone
      cases hnone
    · rintro ⟨hlast, hname⟩
      cases hlast
      exact absurd hname (Registry.not_names_last h)

theorem algorithm?_eq_none_of_last
    (hlast : (ofRegistry r' exclusions).algorithm? value kind = some n.name) :
    (ofRegistry r exclusions).algorithm? value kind = none := by
  rcases @algorithm?_append r r' n h exclusions value kind with hsame | ⟨hold, _⟩
  · exact absurd (names_of_algorithm? (hsame ▸ hlast)) (Registry.not_names_last h)
  · exact hold

end Matcher

/-- A text that the evidence rests on is attributed to no algorithm. Constants rest on no text. -/
def Evidence.Unclaimed (m : Matcher) (identifier : String) : Evidence → Prop
  | .nameMatch _ => m.algorithm? identifier .identifier = none
  | .constantMatch _ _ => True
  | .stringReference _ value => m.algorithm? value .literal = none

namespace Managed

variable {r r' : Registry} {n : Algorithm} (h : r'.algorithms = r.algorithms ++ [n])
variable {exclusions : Exclusions} {classes : List CodeClass} {strings : StringTable}
variable {name method : String} {e : Evidence}
include h

theorem classFact_iff :
    ClassFact (.ofRegistry r exclusions) classes name e ↔
      ClassFact (.ofRegistry r' exclusions) classes name e ∧ r.Names e.algorithm := by
  constructor
  · intro hfact
    cases hfact with
    | nameMatch hc hn ha =>
      obtain ⟨ha, hname⟩ := (Matcher.algorithm?_eq_some_iff h).1 ha
      exact ⟨.nameMatch hc hn ha, hname⟩
  · rintro ⟨hfact, hname⟩
    cases hfact with
    | nameMatch hc hn ha =>
      exact .nameMatch hc hn ((Matcher.algorithm?_eq_some_iff h).2 ⟨ha, hname⟩)

theorem methodFact_iff :
    MethodFact r (.ofRegistry r exclusions) classes strings name method e ↔
      MethodFact r' (.ofRegistry r' exclusions) classes strings name method e ∧
        r.Names e.algorithm := by
  constructor
  · intro hfact
    cases hfact with
    | nameMatch hc hn hk hm ha =>
      obtain ⟨ha, hname⟩ := (Matcher.algorithm?_eq_some_iff h).1 ha
      exact ⟨.nameMatch hc hn hk hm ha, hname⟩
    | constantMatch hc hn hk hm hx hcode ha hb hin =>
      exact ⟨.constantMatch hc hn hk hm hx hcode (Registry.mem_of_mem h ha) hb hin, _, ha, rfl⟩
    | stringReference hr hl ha =>
      obtain ⟨ha, hname⟩ := (Matcher.algorithm?_eq_some_iff h).1 ha
      exact ⟨.stringReference hr hl ha, hname⟩
  · rintro ⟨hfact, hname⟩
    cases hfact with
    | nameMatch hc hn hk hm ha =>
      exact .nameMatch hc hn hk hm ((Matcher.algorithm?_eq_some_iff h).2 ⟨ha, hname⟩)
    | constantMatch hc hn hk hm hx hcode ha hb hin =>
      exact .constantMatch hc hn hk hm hx hcode (Registry.mem_of_names h ha hname) hb hin
    | stringReference hr hl ha =>
      exact .stringReference hr hl ((Matcher.algorithm?_eq_some_iff h).2 ⟨ha, hname⟩)

theorem ClassFact.unclaimed (hfact : ClassFact (.ofRegistry r' exclusions) classes name e)
    (hlast : e.algorithm = n.name) : e.Unclaimed (.ofRegistry r exclusions) name := by
  cases hfact with
  | nameMatch hc hn ha => exact Matcher.algorithm?_eq_none_of_last h (hlast ▸ ha)

theorem MethodFact.unclaimed
    (hfact : MethodFact r' (.ofRegistry r' exclusions) classes strings name method e)
    (hlast : e.algorithm = n.name) : e.Unclaimed (.ofRegistry r exclusions) method := by
  cases hfact with
  | nameMatch hc hn hk hm ha => exact Matcher.algorithm?_eq_none_of_last h (hlast ▸ ha)
  | constantMatch hc hn hk hm hx hcode ha hb hin => trivial
  | stringReference hr hl ha => exact Matcher.algorithm?_eq_none_of_last h (hlast ▸ ha)

end Managed

/-- Another record of a library says the same of the algorithms and constants of a registry, and the
first says nothing of others. -/
structure LibraryRecord.KeptBy (registry : Registry) (l l' : LibraryRecord) : Prop where
  name : l'.name = l.name
  path : l'.path = l.path
  packer : l'.packer = l.packer
  symbols : ∀ algorithm symbols, l.symbols.get? algorithm = some symbols ↔
    l'.symbols.get? algorithm = some symbols ∧ registry.Names algorithm
  constants : ∀ constant found, l.constants.get? constant = some found ↔
    l'.constants.get? constant = some found ∧ registry.NamesConstant constant

namespace Native

variable {r r' : Registry} {n : Algorithm} (h : r'.algorithms = r.algorithms ++ [n])
include h

theorem symbolsByAlgorithm_kept {exclusions : Exclusions} {symbols own : List String}
    {algorithm : String} :
    (symbolsByAlgorithm r (.ofRegistry r exclusions) symbols).get? algorithm = some own ↔
      (symbolsByAlgorithm r' (.ofRegistry r' exclusions) symbols).get? algorithm = some own ∧
        r.Names algorithm := by
  rw [get?_symbolsByAlgorithm, get?_symbolsByAlgorithm, and_comm (b := r.Names algorithm)]
  refine and_congr_right fun hname => ?_
  have hname' : r'.Names algorithm := by
    obtain ⟨a, ha, hn⟩ := hname
    exact ⟨a, Registry.mem_of_mem h ha, hn⟩
  have hfilter : (symbols.filter fun s =>
      (Matcher.ofRegistry r exclusions).algorithm? s .identifier == some algorithm) =
      symbols.filter fun s =>
        (Matcher.ofRegistry r' exclusions).algorithm? s .identifier == some algorithm := by
    apply List.filter_congr
    intro s _
    rw [Bool.eq_iff_iff, beq_iff_eq, beq_iff_eq, Matcher.algorithm?_eq_some_iff h]
    exact and_iff_left hname
  rw [hfilter]
  exact (and_iff_right hname').symm

theorem scan_kept {regions : List String} {region? : String → Option (List UInt8)}
    {constant : String} {found : Bool} :
    (Signature.scan regions region? r).get? constant = some found ↔
      (Signature.scan regions region? r').get? constant = some found ∧ r.NamesConstant constant := by
  rw [Signature.get?_scan, Signature.get?_scan]
  constructor
  · rintro ⟨a, ha, c, hc, hname, hfound⟩
    exact ⟨⟨a, Registry.mem_of_mem h ha, c, hc, hname, hfound⟩, a, ha, c, hc, hname⟩
  · rintro ⟨⟨a, ha, c, hc, hname, hfound⟩, b, hb, d, hd, hname'⟩
    obtain ⟨_, rfl⟩ := Registry.eq_of_constantName_eq ha hc (Registry.mem_of_mem h hb) hd
      (hname.trans hname'.symm)
    exact ⟨b, hb, c, hd, hname, hfound⟩

end Native

/-- What a report tells under a rule set is told under a larger one too, which tells nothing new of
the algorithms that were there. The new algorithm has what was attributed to none of them. -/
structure Report.KeptBy (rules : RuleSet) (n : Algorithm) (r r' : Report) : Prop where
  identity : r'.identity = r.identity
  counters : r'.counters = r.counters
  skippedLibraries : r'.skippedLibraries = r.skippedLibraries
  inClasses : ∀ name e, ShownInClass r.classes name e ↔
    ShownInClass r'.classes name e ∧ rules.registry.Names e.algorithm
  inMethods : ∀ name method e, ShownInMethod r.classes name method e ↔
    ShownInMethod r'.classes name method e ∧ rules.registry.Names e.algorithm
  newInClasses : ∀ name e, ShownInClass r'.classes name e → e.algorithm = n.name →
    e.Unclaimed rules.matcher name
  newInMethods : ∀ name method e, ShownInMethod r'.classes name method e → e.algorithm = n.name →
    e.Unclaimed rules.matcher method
  libraries : List.Forall₂ (LibraryRecord.KeptBy rules.registry) r.libraries r'.libraries

section Extended

variable {rules : RuleSet} {extended : Registry} {n : Algorithm}
variable (h : extended.algorithms = rules.registry.algorithms ++ [n])
include h

theorem Native.examine_kept (l : Library) :
    (∃ s, examine rules rules.matcher l = .error s ∧
      examine { rules with registry := extended } { rules with registry := extended }.matcher l =
        .error s) ∨
    ∃ a b, examine rules rules.matcher l = .ok a ∧
      examine { rules with registry := extended } { rules with registry := extended }.matcher l =
        .ok b ∧ a.KeptBy rules.registry b := by
  rw [examine, examine]
  cases Image.parse l.data with
  | error fault => exact .inl ⟨_, rfl, rfl⟩
  | ok image =>
    refine .inr ⟨_, _, rfl, rfl, rfl, rfl, rfl, ?_, ?_⟩
    · intro algorithm symbols
      exact symbolsByAlgorithm_kept h
    · intro constant found
      exact scan_kept h

theorem Native.filterMap_examine_kept (libraries : List Library) :
    List.Forall₂ (LibraryRecord.KeptBy rules.registry)
      (libraries.filterMap fun l => (examine rules rules.matcher l).toOption)
      (libraries.filterMap fun l => (examine { rules with registry := extended }
        { rules with registry := extended }.matcher l).toOption) := by
  induction libraries with
  | nil => exact .nil
  | cons l rest ih =>
    rw [List.filterMap_cons, List.filterMap_cons]
    rcases examine_kept h l with ⟨s, hs, hs'⟩ | ⟨a, b, ha, hb, hab⟩
    · rw [hs, hs']
      exact ih
    · rw [ha, hb]
      exact .cons hab ih

theorem Application.findings_kept (identity : Identity) (package? : Option Package)
    (libraries : List Library) (rejected : List SkippedLibrary) (elapsed : Nat) :
    (findings rules identity package? libraries rejected elapsed).KeptBy rules n
      (findings { rules with registry := extended } identity package? libraries rejected
        elapsed) where
  identity := rfl
  counters := counters_findings.trans counters_findings.symm
  skippedLibraries := by
    rw [skippedLibraries_findings, skippedLibraries_findings]
    rfl
  inClasses := by
    intro name e
    rw [shownInClass_findings, shownInClass_findings]
    exact Managed.classFact_iff h
  inMethods := by
    intro name method e
    rw [shownInMethod_findings, shownInMethod_findings]
    exact Managed.methodFact_iff h
  newInClasses := by
    intro name e hshown
    exact (shownInClass_findings.1 hshown).unclaimed h
  newInMethods := by
    intro name method e hshown
    exact (shownInMethod_findings.1 hshown).unclaimed h
  libraries := by
    rw [libraries_findings, libraries_findings]
    exact Native.filterMap_examine_kept h libraries

end Extended

namespace Application

/-- An algorithm at the end of a registry takes nothing from the others. The surveys with it and
without it both give up or both end, and then whatever is found without it is found with it too. -/
theorem surveyInputs_extended (rules : RuleSet) (n : Algorithm) (extended : Registry)
    (h : Registry.ofAlgorithms (rules.registry.algorithms ++ [n]) = .ok extended)
    (identity : Identity) (package? : Option Package) (libraries : List Library)
    (rejected : List SkippedLibrary) (d : Deadline) (clocks : Clocks) :
    (∃ r r', surveyInputs rules identity package? libraries rejected d clocks = .ok r ∧
      surveyInputs { rules with registry := extended } identity package? libraries rejected d
        clocks = .ok r' ∧ r.KeptBy rules n r') ∨
    ∃ budget, d.budget? = some budget ∧
      surveyInputs rules identity package? libraries rejected d clocks =
        .error (.timeout budget) ∧
      surveyInputs { rules with registry := extended } identity package? libraries rejected d
        clocks = .error (.timeout budget) := by
  have halgorithms := Registry.algorithms_of_ofAlgorithms h
  by_cases hspent : d.FindsSpent clocks.managed (managedLooks package?) ∨
      d.FindsSpent clocks.native libraries.length
  · obtain ⟨budget, hb, hs⟩ := surveyInputs_eq_timeout rules identity rejected hspent
    obtain ⟨budget', hb', hs'⟩ :=
      surveyInputs_eq_timeout { rules with registry := extended } identity rejected hspent
    cases hb.symm.trans hb'
    exact .inr ⟨budget, hb, hs, hs'⟩
  · rw [not_or] at hspent
    exact .inl ⟨_, _, surveyInputs_eq_ok rules identity rejected hspent.1 hspent.2,
      surveyInputs_eq_ok _ identity rejected hspent.1 hspent.2,
      findings_kept halgorithms identity package? libraries rejected clocks.finish⟩

/-- The two algorithms, and a mode that is often named together with one of them. -/
def andMode : Registry where
  algorithms := Managed.twoAlgorithms.algorithms ++ [⟨"gcm", [], []⟩]
  faultless := by decide +kernel

def modeString : Package := ⟨none, [], StringTable.insert ∅ "AES/GCM" ⟨"Net", "seal"⟩⟩

theorem surveyInputs_extended_andMode :
    ∃ r r', surveyInputs ⟨Managed.twoAlgorithms, {}, [], ∅⟩ ⟨"app.apk", none⟩ (some modeString) [] []
        .unlimited .stopped = .ok r ∧
      surveyInputs ⟨andMode, {}, [], ∅⟩ ⟨"app.apk", none⟩ (some modeString) [] []
        .unlimited .stopped = .ok r' ∧
      r.KeptBy ⟨Managed.twoAlgorithms, {}, [], ∅⟩ ⟨"gcm", [], []⟩ r' ∧
      ShownInMethod r'.classes "Net" "seal" (.stringReference "aes" "AES/GCM") ∧
      ¬ ShownInMethod r'.classes "Net" "seal" (.stringReference "gcm" "AES/GCM") := by
  have haccepted : Registry.ofAlgorithms
      (Managed.twoAlgorithms.algorithms ++ [⟨"gcm", [], []⟩]) = .ok andMode :=
    Registry.ofAlgorithms_algorithms andMode
  rcases surveyInputs_extended ⟨Managed.twoAlgorithms, {}, [], ∅⟩ ⟨"gcm", [], []⟩ andMode haccepted
      ⟨"app.apk", none⟩ (some modeString) [] [] .unlimited .stopped with
    ⟨r, r', hr, hr', hkept⟩ | ⟨_, hb, _⟩
  · refine ⟨r, r', hr, hr', hkept, ?_, ?_⟩
    · rw [eq_findings_of_surveyInputs _ _ _ hr', shownInMethod_findings]
      exact .stringReference rfl (by decide) (by decide +kernel)
    · intro hshown
      have hnone : (Matcher.ofRegistry Managed.twoAlgorithms {}).algorithm? "AES/GCM" .literal =
          none := hkept.newInMethods _ _ _ hshown rfl
      exact absurd hnone (by decide +kernel)
  · cases hb

end Application

end CryptoSurvey
