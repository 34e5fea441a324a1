import CryptoSurvey.Proofs.Attribution
import CryptoSurvey.Proofs.Findings
import CryptoSurvey.Report.Row

namespace CryptoSurvey

/-- A class or, if there is one, its method, with its label and the evidence that it holds. -/
structure Holder where
  className : String
  method? : Option String
  primary? : Option String
  evidence : OrderedSet Evidence

/-- Holders are ordered by class. A class comes before its methods, and these are in order of name. -/
def Holder.Before (u v : Holder) : Prop :=
  u.className < v.className ∨ u.className = v.className ∧ u.method? < v.method?

theorem Holder.place_ne_of_before {u v : Holder} (h : u.Before v) :
    (u.className, u.method?) ≠ (v.className, v.method?) := by
  intro hplace
  rw [Prod.mk.injEq] at hplace
  rcases h with h | ⟨_, h⟩
  · exact String.lt_irrefl _ (hplace.1 ▸ h)
  · rw [hplace.2] at h
    cases hm : v.method? with
    | none =>
      rw [hm] at h
      exact h
    | some m =>
      rw [hm] at h
      exact String.lt_irrefl m h

def ClassRecord.holders (c : ClassRecord) : List Holder :=
  ⟨c.name, none, c.primary?, c.evidence⟩ ::
    c.methods.values.map fun m => ⟨c.name, some m.name, m.primary?, m.evidence⟩

theorem ClassRecord.className_of_mem_holders {c : ClassRecord} {u : Holder} (h : u ∈ c.holders) :
    u.className = c.name := by
  rcases List.mem_cons.1 h with rfl | h
  · rfl
  · obtain ⟨m, _, rfl⟩ := List.mem_map.1 h
    rfl

theorem ClassRecord.holders_increasing {c : ClassRecord} (h : c.WellFiled) :
    c.holders.Pairwise Holder.Before := by
  rw [holders, List.pairwise_cons]
  constructor
  · intro u hu
    obtain ⟨m, _, rfl⟩ := List.mem_map.1 hu
    exact .inr ⟨rfl, trivial⟩
  · have hnames : c.methods.values.Pairwise fun m n => m.name < n.name := by
      apply OrderedMap.pairwise_values
      intro k m hm
      exact (h k m hm).1
    rw [List.pairwise_map]
    refine hnames.imp ?_
    intro m n hmn
    exact .inr ⟨rfl, hmn⟩

def Report.holders (r : Report) : List Holder :=
  r.classes.flatMap (·.holders)

theorem Report.shown_of_mem_holders {r : Report} {u : Holder} (hu : u ∈ r.holders) {e : Evidence}
    (he : e ∈ u.evidence) :
    ShownInClass r.classes u.className e ∨ ∃ m, ShownInMethod r.classes u.className m e := by
  obtain ⟨c, hc, hu⟩ := List.mem_flatMap.1 hu
  rcases List.mem_cons.1 hu with rfl | hu
  · exact .inl ⟨c, hc, rfl, he⟩
  · obtain ⟨q, hq, rfl⟩ := List.mem_map.1 hu
    obtain ⟨m, hm⟩ := OrderedMap.mem_values_iff.1 hq
    exact .inr ⟨m, q, ⟨c, hc, rfl, hm⟩, he⟩

/-- A constant of the name is registered for the algorithm. -/
def Registry.Owns (r : Registry) (algorithm constant : String) : Prop :=
  ∃ a ∈ r.algorithms, a.name = algorithm ∧ ∃ c ∈ a.constants, c.name = constant

/-- The evidence names a registered algorithm, and a constant only if it is one of that algorithm. -/
def Registry.Covers (r : Registry) : Evidence → Prop
  | .nameMatch a => r.Names a
  | .constantMatch a k => r.Owns a k
  | .stringReference a _ => r.Names a

theorem Registry.Covers.names {r : Registry} {e : Evidence} (h : r.Covers e) :
    r.Names e.algorithm := by
  cases e with
  | nameMatch a => exact h
  | constantMatch a k =>
    obtain ⟨b, hb, hname, _⟩ := h
    exact ⟨b, hb, hname⟩
  | stringReference a v => exact h

namespace Managed

variable {registry : Registry} {exclusions : Exclusions} {classes : List CodeClass}
variable {strings : StringTable} {name method : String} {e : Evidence}

theorem ClassFact.covers (h : ClassFact (.ofRegistry registry exclusions) classes name e) :
    registry.Covers e := by
  cases h with
  | nameMatch _ _ ha => exact Matcher.names_of_algorithm? ha

theorem MethodFact.covers
    (h : MethodFact registry (.ofRegistry registry exclusions) classes strings name method e) :
    registry.Covers e := by
  cases h with
  | nameMatch _ _ _ _ ha => exact Matcher.names_of_algorithm? ha
  | constantMatch _ _ _ _ _ _ ha hc _ => exact ⟨_, ha, rfl, _, hc, rfl⟩
  | stringReference _ _ ha => exact Matcher.names_of_algorithm? ha

end Managed

theorem algorithmsOf_increasing (es : List Evidence) : (algorithmsOf es).Pairwise (· < ·) :=
  OrderedSet.pairwise_lt _

theorem mem_algorithmsOf {es : List Evidence} {a : String} :
    a ∈ algorithmsOf es ↔ ∃ e ∈ es, e.algorithm = a := by
  rw [algorithmsOf, ← OrderedSet.mem_iff, OrderedSet.mem_ofList, List.mem_map]

namespace ManagedRow

/-- Rows are ordered as their holders are, and those of one holder by algorithm. -/
def Before (x y : ManagedRow) : Prop :=
  x.className < y.className ∨ x.className = y.className ∧
    (x.method? < y.method? ∨ x.method? = y.method? ∧ x.algorithm < y.algorithm)

/-- The row tells what a holder has of a registered algorithm. -/
structure Tells (registry : Registry) (identity : Identity) (u : Holder) (row : ManagedRow) :
    Prop where
  app : row.app = identity.fileName
  package : row.package? = identity.package?
  className : row.className = u.className
  method : row.method? = u.method?
  primary : row.primary? = u.primary?
  registered : registry.Names row.algorithm
  nameMatch : row.nameMatch = true ↔ .nameMatch row.algorithm ∈ u.evidence
  strings : ∀ value, value ∈ row.strings ↔ .stringReference row.algorithm value ∈ u.evidence
  stringsIncreasing : row.strings.Pairwise (· < ·)
  constantNames : ∀ k, row.constants.contains k = true ↔ registry.Owns row.algorithm k
  constants : ∀ k, row.constants.get? k = some true ↔ .constantMatch row.algorithm k ∈ u.evidence

def evidence (row : ManagedRow) : List Evidence :=
  (if row.nameMatch then [.nameMatch row.algorithm] else []) ++
    (row.constants.keys.filter fun k => row.constants.get? k == some true).map
      (.constantMatch row.algorithm) ++
    row.strings.map (.stringReference row.algorithm)

/-- The evidence that rows tell of for a class or one of its methods. -/
def evidenceOf (rows : List ManagedRow) (className : String) (method? : Option String) :
    OrderedSet Evidence :=
  .ofList ((rows.filter fun row => row.className = className ∧ row.method? = method?).flatMap evidence)

theorem get?_flags {registry : Registry} {algorithm k : String} {matched : List String}
    {found : Bool} :
    (flags registry algorithm matched).get? k = some found ↔
      registry.Owns algorithm k ∧ matched.contains k = found := by
  rw [flags]
  cases ha : registry.get? algorithm with
  | none =>
    constructor
    · intro h
      cases h
    · rintro ⟨⟨a, hmem, hname, _⟩, _⟩
      rw [Registry.get?_eq_some_iff.2 ⟨hmem, hname⟩] at ha
      cases ha
  | some a =>
    obtain ⟨hmem, hname⟩ := Registry.get?_eq_some_iff.1 ha
    have hnodup : (a.constants.map (·.name)).Nodup :=
      (List.nodup_flatMap.1 registry.nodup_constants).1 a hmem
    change (OrderedMap.ofList (a.constants.map fun c => (c.name, matched.contains c.name))).get? k =
      some found ↔ _
    rw [OrderedMap.get?_ofList_map hnodup]
    constructor
    · rintro ⟨c, hc, rfl, hfound⟩
      exact ⟨⟨a, hmem, hname, c, hc, rfl⟩, hfound⟩
    · rintro ⟨⟨b, hb, hbname, c, hc, rfl⟩, hfound⟩
      rw [Registry.eq_of_name_eq hb hmem (hbname.trans hname.symm)] at hc
      exact ⟨c, hc, rfl, hfound⟩

section OfEvidence

variable {es : List Evidence} {algorithm value k : String}

/-- What is read off the evidence of one algorithm stands in the item that alone has it. -/
theorem mem_own {read? : Evidence → Option String} {item : Evidence}
    (h : ∀ e, e.algorithm = algorithm ∧ read? e = some value ↔ e = item) :
    value ∈ (es.filter (·.algorithm == algorithm)).filterMap read? ↔ item ∈ es := by
  simp only [List.mem_filterMap, List.mem_filter, beq_iff_eq, and_assoc, h, exists_eq_right]

theorem mem_own_strings :
    value ∈ (es.filter (·.algorithm == algorithm)).filterMap string? ↔
      .stringReference algorithm value ∈ es := by
  apply mem_own
  intro e
  cases e <;> simp [string?, Evidence.algorithm]

theorem mem_own_constants :
    k ∈ (es.filter (·.algorithm == algorithm)).filterMap constant? ↔
      .constantMatch algorithm k ∈ es := by
  apply mem_own
  intro e
  cases e <;> simp [constant?, Evidence.algorithm]

end OfEvidence

def ofHolder (registry : Registry) (identity : Identity) (u : Holder) : List ManagedRow :=
  (algorithmsOf u.evidence.toList).map
    (ofEvidence registry identity u.className u.method? u.primary? u.evidence.toList)

theorem ofClass_eq (registry : Registry) (identity : Identity) (c : ClassRecord) :
    ofClass registry identity c = c.holders.flatMap (ofHolder registry identity) := by
  rw [ClassRecord.holders, List.flatMap_cons, List.flatMap_map]
  rfl

section Holder

variable {registry : Registry} {identity : Identity} {u v : Holder} {row other : ManagedRow}

theorem tells_ofEvidence {a : String} (hu : ∀ e ∈ u.evidence, registry.Covers e)
    (ha : a ∈ algorithmsOf u.evidence.toList) :
    (ofEvidence registry identity u.className u.method? u.primary? u.evidence.toList a).Tells
      registry identity u where
  app := rfl
  package := rfl
  className := rfl
  method := rfl
  primary := rfl
  registered := by
    obtain ⟨e, he, rfl⟩ := mem_algorithmsOf.1 ha
    exact (hu e he).names
  nameMatch := by
    rw [ofEvidence, List.contains_iff_mem, List.mem_filter]
    exact and_iff_left (beq_self_eq_true a)
  strings := by
    intro value
    rw [ofEvidence, ← OrderedSet.mem_iff, OrderedSet.mem_ofList]
    exact mem_own_strings
  stringsIncreasing := OrderedSet.pairwise_lt _
  constantNames := by
    intro k
    rw [OrderedMap.contains, Option.isSome_iff_exists]
    simp only [ofEvidence, get?_flags, exists_and_left, exists_eq', and_true]
  constants := by
    intro k
    rw [ofEvidence, get?_flags, List.contains_iff_mem, mem_own_constants]
    -- a match of a constant that the algorithm does not have would be in no flag
    exact and_iff_right_of_imp fun he => hu _ he

theorem mem_ofHolder (hrow : row ∈ ofHolder registry identity u) :
    row.className = u.className ∧ row.method? = u.method? ∧
      row.algorithm ∈ algorithmsOf u.evidence.toList := by
  obtain ⟨a, ha, rfl⟩ := List.mem_map.1 hrow
  exact ⟨rfl, rfl, ha⟩

theorem tells_of_mem_ofHolder (hu : ∀ e ∈ u.evidence, registry.Covers e)
    (hrow : row ∈ ofHolder registry identity u) : row.Tells registry identity u := by
  obtain ⟨a, ha, rfl⟩ := List.mem_map.1 hrow
  exact tells_ofEvidence hu ha

theorem pairwise_ofHolder : (ofHolder registry identity u).Pairwise Before := by
  rw [ofHolder, List.pairwise_map]
  refine (algorithmsOf_increasing _).imp ?_
  intro a b hab
  exact .inr ⟨rfl, .inr ⟨rfl, hab⟩⟩

theorem before_of_holders (h : u.Before v) (hrow : row ∈ ofHolder registry identity u)
    (hother : other ∈ ofHolder registry identity v) : row.Before other := by
  obtain ⟨hc, hm, _⟩ := mem_ofHolder hrow
  obtain ⟨hc', hm', _⟩ := mem_ofHolder hother
  rw [Before, hc, hm, hc', hm']
  rcases h with h | ⟨hclass, hmethod⟩
  · exact .inl h
  · exact .inr ⟨hclass, .inl hmethod⟩

theorem nameMatch_mem_evidence {a : String} :
    .nameMatch a ∈ row.evidence ↔ row.nameMatch = true ∧ a = row.algorithm := by
  simp [evidence]

theorem constantMatch_mem_evidence {a k : String} :
    .constantMatch a k ∈ row.evidence ↔ row.constants.get? k = some true ∧ a = row.algorithm := by
  have hkey (hk : row.constants.get? k = some true) : k ∈ row.constants.keys :=
    List.mem_map_of_mem (OrderedMap.get?_eq_some_iff.1 hk)
  rw [@eq_comm _ a]
  simp [evidence, and_iff_right_of_imp hkey]

theorem stringReference_mem_evidence {a value : String} :
    .stringReference a value ∈ row.evidence ↔ value ∈ row.strings ∧ a = row.algorithm := by
  rw [@eq_comm _ a]
  simp [evidence]

theorem Tells.mem_evidence (h : row.Tells registry identity u) {e : Evidence} :
    e ∈ row.evidence ↔ e ∈ u.evidence ∧ e.algorithm = row.algorithm := by
  cases e with
  | nameMatch a =>
    rw [nameMatch_mem_evidence, h.nameMatch]
    exact and_congr_left fun ha => ha ▸ Iff.rfl
  | constantMatch a k =>
    rw [constantMatch_mem_evidence, h.constants]
    exact and_congr_left fun ha => ha ▸ Iff.rfl
  | stringReference a value =>
    rw [stringReference_mem_evidence, h.strings]
    exact and_congr_left fun ha => ha ▸ Iff.rfl

end Holder

end ManagedRow

namespace Report

variable {registry : Registry} {r : Report}

theorem managedRows_eq :
    r.managedRows registry = r.holders.flatMap (ManagedRow.ofHolder registry r.identity) := by
  rw [managedRows, holders, List.flatMap_assoc]
  exact List.flatMap_congr fun c _ => ManagedRow.ofClass_eq registry r.identity c

theorem exists_managedRow {className algorithm : String} {method? : Option String} :
    (∃ row ∈ r.managedRows registry, row.className = className ∧ row.method? = method? ∧
        row.algorithm = algorithm) ↔
      ∃ u ∈ r.holders, u.className = className ∧ u.method? = method? ∧
        ∃ e ∈ u.evidence, e.algorithm = algorithm := by
  rw [managedRows_eq]
  constructor
  · rintro ⟨row, hrow, rfl, rfl, rfl⟩
    obtain ⟨u, hu, hrow⟩ := List.mem_flatMap.1 hrow
    obtain ⟨hc, hm, ha⟩ := ManagedRow.mem_ofHolder hrow
    exact ⟨u, hu, hc.symm, hm.symm, mem_algorithmsOf.1 ha⟩
  · rintro ⟨u, hu, rfl, rfl, he⟩
    refine ⟨_, List.mem_flatMap.2 ⟨u, hu, List.mem_map_of_mem (mem_algorithmsOf.2 he)⟩, ?_⟩
    exact ⟨rfl, rfl, rfl⟩

/-- The report is in order and its evidence is about what is registered. -/
structure Regular (registry : Registry) (r : Report) : Prop where
  increasing : r.holders.Pairwise Holder.Before
  covered : ∀ u ∈ r.holders, ∀ e ∈ u.evidence, registry.Covers e

namespace Regular

variable (h : r.Regular registry)
include h

theorem eq_of_place {u v : Holder} (hu : u ∈ r.holders) (hv : v ∈ r.holders)
    (hc : u.className = v.className) (hm : u.method? = v.method?) : u = v := by
  have hnodup : (r.holders.map fun u => (u.className, u.method?)).Nodup := by
    rw [List.Nodup, List.pairwise_map]
    exact h.increasing.imp Holder.place_ne_of_before
  exact List.inj_on_of_nodup_map hnodup hu hv (Prod.ext hc hm)

theorem pairwise_managedRows : (r.managedRows registry).Pairwise ManagedRow.Before := by
  rw [managedRows_eq, List.pairwise_flatMap]
  constructor
  · intro u _
    exact ManagedRow.pairwise_ofHolder
  · refine h.increasing.imp ?_
    intro u v huv row hrow other hother
    exact ManagedRow.before_of_holders huv hrow hother

theorem tells_managedRow {row : ManagedRow} {u : Holder} (hrow : row ∈ r.managedRows registry)
    (hu : u ∈ r.holders) (hc : row.className = u.className) (hm : row.method? = u.method?) :
    row.Tells registry r.identity u := by
  rw [managedRows_eq] at hrow
  obtain ⟨v, hv, hrow⟩ := List.mem_flatMap.1 hrow
  obtain ⟨hc', hm', _⟩ := ManagedRow.mem_ofHolder hrow
  obtain rfl := h.eq_of_place hu hv (hc.symm.trans hc') (hm.symm.trans hm')
  exact ManagedRow.tells_of_mem_ofHolder (h.covered u hu) hrow

theorem evidenceOf_managedRows {u : Holder} (hu : u ∈ r.holders) :
    ManagedRow.evidenceOf (r.managedRows registry) u.className u.method? = u.evidence := by
  apply OrderedSet.ext_mem
  intro e
  rw [ManagedRow.evidenceOf, OrderedSet.mem_ofList, List.mem_flatMap]
  constructor
  · rintro ⟨row, hrow, he⟩
    obtain ⟨hrow, hplace⟩ := List.mem_filter.1 hrow
    obtain ⟨hc, hm⟩ := of_decide_eq_true hplace
    exact ((h.tells_managedRow hrow hu hc hm).mem_evidence.1 he).1
  · intro he
    have hexists : ∃ row ∈ r.managedRows registry, row.className = u.className ∧
        row.method? = u.method? ∧ row.algorithm = e.algorithm :=
      exists_managedRow.2 ⟨u, hu, rfl, rfl, e, he, rfl⟩
    obtain ⟨row, hrow, hc, hm, ha⟩ := hexists
    refine ⟨row, List.mem_filter.2 ⟨hrow, decide_eq_true ⟨hc, hm⟩⟩, ?_⟩
    exact (h.tells_managedRow hrow hu hc hm).mem_evidence.2 ⟨he, ha.symm⟩

end Regular

end Report

namespace Application

variable {rules : RuleSet} {identity : Identity} {package? : Option Package}
variable {libraries : List Library} {rejected : List SkippedLibrary} {elapsed : Nat}

theorem regular_findings :
    (findings rules identity package? libraries rejected elapsed).Regular rules.registry where
  increasing := by
    rw [Report.holders, List.pairwise_flatMap, classes_findings]
    constructor
    · intro c hc
      obtain ⟨name, hname⟩ := OrderedMap.mem_values_iff.1 hc
      exact ClassRecord.holders_increasing (wellFiled_emitted name c hname).2
    · refine wellFiled_emitted.named.pairwise_values.imp ?_
      intro c d hcd u hu v hv
      left
      rw [ClassRecord.className_of_mem_holders hu, ClassRecord.className_of_mem_holders hv]
      exact hcd
  covered := by
    intro u hu e he
    rcases Report.shown_of_mem_holders hu he with hshown | ⟨m, hshown⟩
    · exact (shownInClass_findings.1 hshown).covers
    · exact (shownInMethod_findings.1 hshown).covers

/-- The rows of a survey lose nothing and invent nothing. There is one row for every class or method
and every algorithm that it holds evidence of. They come in order, each tells what its class or method
holds of its algorithm, and together they tell all the evidence of the report. -/
theorem surveyInputs_managedRows (rules : RuleSet) (identity : Identity)
    (package? : Option Package) (libraries : List Library) (rejected : List SkippedLibrary)
    (d : Deadline) (clocks : Clocks) (report : Report)
    (h : surveyInputs rules identity package? libraries rejected d clocks = .ok report) :
    (report.managedRows rules.registry).Pairwise ManagedRow.Before ∧
    (∀ className method? algorithm,
      (∃ row ∈ report.managedRows rules.registry, row.className = className ∧
          row.method? = method? ∧ row.algorithm = algorithm) ↔
        ∃ u ∈ report.holders, u.className = className ∧ u.method? = method? ∧
          ∃ e ∈ u.evidence, e.algorithm = algorithm) ∧
    (∀ row ∈ report.managedRows rules.registry, ∀ u ∈ report.holders,
      row.className = u.className → row.method? = u.method? →
        row.Tells rules.registry report.identity u) ∧
    ∀ u ∈ report.holders,
      ManagedRow.evidenceOf (report.managedRows rules.registry) u.className u.method? =
        u.evidence := by
  have hregular : report.Regular rules.registry := by
    rw [eq_findings_of_surveyInputs rules identity rejected h]
    exact regular_findings
  refine ⟨hregular.pairwise_managedRows, ?_, ?_, ?_⟩
  · intro className method? algorithm
    exact Report.exists_managedRow
  · intro row hrow u hu hc hm
    exact hregular.tells_managedRow hrow hu hc hm
  · intro u hu
    exact hregular.evidenceOf_managedRows hu

/-- A method that shows a constant and a string, of different algorithms. -/
def mixedMethod : Package :=
  ⟨none, [⟨"Net", [⟨"send", false, some [0, 0xd6, 0x90]⟩]⟩],
    StringTable.insert ∅ "AES" ⟨"Net", "send"⟩⟩

theorem surveyInputs_managedRows_mixedMethod :
    ∃ report, surveyInputs ⟨Managed.twoAlgorithms, {}, [], ∅⟩ ⟨"app.apk", none⟩ (some mixedMethod)
        [] [] .unlimited .stopped = .ok report ∧
      (report.managedRows Managed.twoAlgorithms).map (fun row => (row.method?, row.algorithm)) =
        [(some "send", "aes"), (some "send", "sm4")] ∧
      (report.managedRows Managed.twoAlgorithms).Pairwise ManagedRow.Before ∧
      ∀ u ∈ report.holders,
        ManagedRow.evidenceOf (report.managedRows Managed.twoAlgorithms) u.className u.method? =
          u.evidence := by
  have hok := surveyInputs_eq_ok ⟨Managed.twoAlgorithms, {}, [], ∅⟩ ⟨"app.apk", none⟩ []
    (@Deadline.not_findsSpent .unlimited Clocks.stopped.managed (managedLooks (some mixedMethod))
      fun _ => rfl)
    (@Deadline.not_findsSpent .unlimited Clocks.stopped.native ([] : List Library).length
      fun _ => rfl)
  obtain ⟨hordered, _, _, hevidence⟩ :=
    surveyInputs_managedRows ⟨Managed.twoAlgorithms, {}, [], ∅⟩ ⟨"app.apk", none⟩
      (some mixedMethod) [] [] .unlimited .stopped _ hok
  exact ⟨_, hok, by decide +kernel, hordered, hevidence⟩

end Application

end CryptoSurvey
