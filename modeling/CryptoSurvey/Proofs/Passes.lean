import CryptoSurvey.Proofs.Assembly
import CryptoSurvey.Proofs.Managed

namespace CryptoSurvey

namespace ClassRecord

/-- The record with all methods marked external, which leaves what it shows. -/
def forgetExternal (c : ClassRecord) : ClassRecord :=
  { c with methods := c.methods.map fun _ r => { r with external := true } }

theorem get?_forgetExternal (c : ClassRecord) (m : String) :
    c.forgetExternal.methods.get? m = (c.methods.get? m).map fun r => { r with external := true } :=
  OrderedMap.get?_map _ _ _

theorem keepsFindings_external :
    KeepsFindings fun _ r => { r with external := true } :=
  ⟨fun _ _ => rfl, fun _ _ _ => rfl⟩

end ClassRecord

namespace ClassTable

def forgetExternal (t : ClassTable) : ClassTable :=
  t.map fun _ c => c.forgetExternal

variable {t u : ClassTable}

theorem forgetExternal_eq :
    t.forgetExternal = t.mapMethods fun _ _ r => { r with external := true } := rfl

theorem get?_forgetExternal {name : String} :
    t.forgetExternal.get? name = (t.get? name).map ClassRecord.forgetExternal :=
  OrderedMap.get?_map _ _ _

theorem values_forgetExternal :
    t.forgetExternal.values = t.values.map ClassRecord.forgetExternal := by
  rw [forgetExternal_eq, values_mapMethods]
  rfl

theorem external_forgetExternal {name m : String} : t.forgetExternal.External name m := by
  intro r hr
  rw [forgetExternal_eq, records_mapMethods] at hr
  obtain ⟨_, _, _, _, rfl⟩ := hr
  rfl

theorem WellFiled.forgetExternal (ht : t.WellFiled) : t.forgetExternal.WellFiled := by
  intro name c hc
  rw [get?_forgetExternal, Option.map_eq_some_iff] at hc
  obtain ⟨d, hd, rfl⟩ := hc
  obtain ⟨hn, hw⟩ := ht name d hd
  refine ⟨hn, ?_⟩
  intro m r hr
  rw [ClassRecord.get?_forgetExternal, Option.map_eq_some_iff] at hr
  obtain ⟨q, hq, rfl⟩ := hr
  exact hw m q hq

theorem emitted_forgetExternal (registry : Registry) :
    (t.emitted registry).forgetExternal = t.forgetExternal.emitted registry :=
  emitted_mapMethods (fun _ => ClassRecord.keepsFindings_external) registry

/-- Tables that show the same evidence report the same, up to which methods are external. -/
theorem emitted_forgetExternal_eq (ht : t.WellFiled) (hu : u.WellFiled)
    (hclass : ∀ name e, t.ClassShows name e ↔ u.ClassShows name e)
    (hmethod : ∀ name m e, t.MethodShows name m e ↔ u.MethodShows name m e)
    (registry : Registry) :
    (t.emitted registry).forgetExternal = (u.emitted registry).forgetExternal := by
  have hagree : t.forgetExternal.Agrees u.forgetExternal :=
    { classShows := by
        intro name e
        rw [forgetExternal_eq, forgetExternal_eq, classShows_mapMethods, classShows_mapMethods, hclass]
      methodShows := by
        intro name m e
        have hkeeps (_ : String) := ClassRecord.keepsFindings_external
        rw [forgetExternal_eq, forgetExternal_eq, methodShows_mapMethods hkeeps,
          methodShows_mapMethods hkeeps, hmethod]
      external := by
        intro name m
        exact iff_of_true external_forgetExternal external_forgetExternal }
  rw [emitted_forgetExternal, emitted_forgetExternal]
  exact hagree.emitted_eq ht.forgetExternal hu.forgetExternal registry

end ClassTable

def StringTable.Refers (t : StringTable) (value : String) (location : Location) : Prop :=
  ∃ references, t.references? value = some references ∧ location ∈ references

namespace Managed

variable {registry : Registry} {m : Matcher} {classes₁ classes₂ : List CodeClass}
variable {strings strings₁ strings₂ : StringTable} {name n : String} {e : Evidence}

theorem classFact_append :
    ClassFact m (classes₁ ++ classes₂) name e ↔
      ClassFact m classes₁ name e ∨ ClassFact m classes₂ name e := by
  constructor
  · intro h
    cases h with
    | nameMatch hc hn ha =>
      rcases List.mem_append.1 hc with hc | hc
      · exact .inl (.nameMatch hc hn ha)
      · exact .inr (.nameMatch hc hn ha)
  · intro h
    rcases h with h | h
    · cases h with
      | nameMatch hc hn ha => exact .nameMatch (List.mem_append_left _ hc) hn ha
    · cases h with
      | nameMatch hc hn ha => exact .nameMatch (List.mem_append_right _ hc) hn ha

theorem MethodFact.mono {classes : List CodeClass}
    (h : MethodFact registry m classes₁ strings₁ name n e) (hc : classes₁ ⊆ classes)
    (hs : ∀ value l, strings₁.Refers value l → strings.Refers value l) :
    MethodFact registry m classes strings name n e := by
  cases h with
  | nameMatch hmem hn hk hm ha => exact .nameMatch (hc hmem) hn hk hm ha
  | constantMatch hmem hn hk hm hx hcode ha hb hin =>
    exact .constantMatch (hc hmem) hn hk hm hx hcode ha hb hin
  | stringReference hr hl ha =>
    obtain ⟨references, hr, hl⟩ := hs _ _ ⟨_, hr, hl⟩
    exact .stringReference hr hl ha

theorem methodFact_append (hs : ∀ value l, strings.Refers value l ↔
      strings₁.Refers value l ∨ strings₂.Refers value l) :
    MethodFact registry m (classes₁ ++ classes₂) strings name n e ↔
      MethodFact registry m classes₁ strings₁ name n e ∨
        MethodFact registry m classes₂ strings₂ name n e := by
  constructor
  · intro h
    cases h with
    | nameMatch hc hn hk hm ha =>
      rcases List.mem_append.1 hc with hc | hc
      · exact .inl (.nameMatch hc hn hk hm ha)
      · exact .inr (.nameMatch hc hn hk hm ha)
    | constantMatch hc hn hk hm hx hcode ha hb hin =>
      rcases List.mem_append.1 hc with hc | hc
      · exact .inl (.constantMatch hc hn hk hm hx hcode ha hb hin)
      · exact .inr (.constantMatch hc hn hk hm hx hcode ha hb hin)
    | stringReference hr hl ha =>
      rcases (hs _ _).1 ⟨_, hr, hl⟩ with ⟨references, hr, hl⟩ | ⟨references, hr, hl⟩
      · exact .inl (.stringReference hr hl ha)
      · exact .inr (.stringReference hr hl ha)
  · intro h
    rcases h with h | h
    · exact h.mono (List.subset_append_left _ _) fun value l hl => (hs value l).2 (.inl hl)
    · exact h.mono (List.subset_append_right _ _) fun value l hl => (hs value l).2 (.inr hl)

end Managed

namespace Report

def forgetExternal (r : Report) : Report :=
  { r with classes := r.classes.map ClassRecord.forgetExternal }

theorem forgetExternal_assemble (registry : Registry) (identity : Identity)
    (passes : List ManagedPass) (native : NativePass) (elapsed : Nat) :
    (assemble registry identity passes native elapsed).forgetExternal.classes =
      (((passes.flatMap (·.classes)).foldl ClassTable.take ∅).emitted
        registry).forgetExternal.values := by
  rw [ClassTable.values_forgetExternal, ← assemble_classes]
  rfl

/-- What passes show and count decides what is reported, up to which methods are external. -/
theorem forgetExternal_assemble_eq {passes passes' : List ManagedPass}
    (hw : ∀ p ∈ passes, ∀ c ∈ p.classes, c.WellFiled)
    (hw' : ∀ p ∈ passes', ∀ c ∈ p.classes, c.WellFiled)
    (hclass : ∀ name e, (∃ p ∈ passes, ShownInClass p.classes name e) ↔
      ∃ p ∈ passes', ShownInClass p.classes name e)
    (hmethod : ∀ name n e, (∃ p ∈ passes, ShownInMethod p.classes name n e) ↔
      ∃ p ∈ passes', ShownInMethod p.classes name n e)
    (hclasses : passes.foldl (fun n p => n + p.classesScanned) 0 =
      passes'.foldl (fun n p => n + p.classesScanned) 0)
    (hmethods : passes.foldl (fun n p => n + p.methodsScanned) 0 =
      passes'.foldl (fun n p => n + p.methodsScanned) 0)
    (registry : Registry) (identity : Identity) (native : NativePass) (elapsed : Nat) :
    (assemble registry identity passes native elapsed).forgetExternal =
      (assemble registry identity passes' native elapsed).forgetExternal := by
  have hfiled {passes : List ManagedPass} (hw : ∀ p ∈ passes, ∀ c ∈ p.classes, c.WellFiled) :
      ((passes.flatMap (·.classes)).foldl ClassTable.take ∅).WellFiled := by
    apply ClassTable.wellFiled_foldl_take
    intro c hc
    obtain ⟨p, hp, hc⟩ := List.mem_flatMap.1 hc
    exact hw p hp c hc
  have hemitted := ClassTable.emitted_forgetExternal_eq (hfiled hw) (hfiled hw') (by
    intro name e
    rw [ClassTable.classShows_foldl_take, ClassTable.classShows_foldl_take, shownInClass_flatMap,
      shownInClass_flatMap, hclass]) (by
    intro name n e
    rw [ClassTable.methodShows_foldl_take, ClassTable.methodShows_foldl_take,
      shownInMethod_flatMap, shownInMethod_flatMap, hmethod]) registry
  have hreported := congrArg OrderedMap.values hemitted
  rw [← forgetExternal_assemble registry identity passes native elapsed,
    ← forgetExternal_assemble registry identity passes' native elapsed] at hreported
  rw [Report.mk.injEq]
  refine ⟨rfl, hreported, rfl, rfl, ?_⟩
  simp only [forgetExternal, assemble, hclasses, hmethods]

end Report

namespace Managed

theorem forgetExternal_parts (registry : Registry) (m : Matcher)
    (classes₁ classes₂ : List CodeClass) {strings₁ strings₂ strings : StringTable}
    (hs : ∀ value l, strings.Refers value l ↔ strings₁.Refers value l ∨ strings₂.Refers value l)
    (identity : Identity) (native : NativePass) (elapsed : Nat) :
    (Report.assemble registry identity [findings registry m classes₁ strings₁,
        findings registry m classes₂ strings₂] native elapsed).forgetExternal =
      (Report.assemble registry identity [findings registry m (classes₁ ++ classes₂) strings]
        native elapsed).forgetExternal := by
  apply Report.forgetExternal_assemble_eq
  · simp only [List.forall_mem_cons, List.not_mem_nil, false_implies, implies_true, and_true]
    exact ⟨fun c => wellFiled_findings, fun c => wellFiled_findings⟩
  · simp only [List.forall_mem_cons, List.not_mem_nil, false_implies, implies_true, and_true]
    exact fun c => wellFiled_findings
  · intro name e
    simp only [List.exists_mem_cons_iff, List.not_mem_nil, false_and, exists_false, or_false,
      shownInClass_findings, classFact_append]
  · intro name n e
    simp only [List.exists_mem_cons_iff, List.not_mem_nil, false_and, exists_false, or_false,
      shownInMethod_findings, methodFact_append hs]
  · change 0 + classes₁.length + classes₂.length = 0 + (classes₁ ++ classes₂).length
    rw [List.length_append, Nat.add_assoc]
  · change 0 + (classes₁.flatMap (·.methods)).length + (classes₂.flatMap (·.methods)).length =
      0 + ((classes₁ ++ classes₂).flatMap (·.methods)).length
    rw [List.flatMap_append, List.length_append, Nat.add_assoc]

/-- Two passes over parts of a package, whose budgets last, and one pass over the whole of it lead to
reports that differ in nothing but the marks of external methods. -/
theorem survey_parts (registry : Registry) (exclusions : Exclusions)
    (classes₁ classes₂ : List CodeClass) (strings₁ strings₂ strings : StringTable)
    (hs : ∀ value l, strings.Refers value l ↔ strings₁.Refers value l ∨ strings₂.Refers value l)
    (d₁ d₂ d : Deadline) (clock₁ clock₂ clock : Clock)
    (hd₁ : ∀ i, d₁.isExpired (clock₁ i) = false) (hd₂ : ∀ i, d₂.isExpired (clock₂ i) = false)
    (hd : ∀ i, d.isExpired (clock i) = false) :
    ∃ pass₁ pass₂ pass,
      survey registry (.ofRegistry registry exclusions) d₁ clock₁ classes₁ strings₁ = .ok pass₁ ∧
      survey registry (.ofRegistry registry exclusions) d₂ clock₂ classes₂ strings₂ = .ok pass₂ ∧
      survey registry (.ofRegistry registry exclusions) d clock (classes₁ ++ classes₂) strings =
        .ok pass ∧
      ∀ identity native elapsed,
        (Report.assemble registry identity [pass₁, pass₂] native elapsed).forgetExternal =
          (Report.assemble registry identity [pass] native elapsed).forgetExternal :=
  ⟨_, _, _, survey_eq_ok hd₁ _ _ _ _, survey_eq_ok hd₂ _ _ _ _, survey_eq_ok hd _ _ _ _,
    forgetExternal_parts registry _ classes₁ classes₂ hs⟩

/-- The string of a method that another part of the package declares. -/
def distantString : StringTable := StringTable.insert ∅ "AES" ⟨"Net", "send"⟩

theorem survey_parts_distantString :
    ∃ pass₁ pass₂ pass,
      survey twoAlgorithms (.ofRegistry twoAlgorithms {}) .unlimited (fun _ => 0) [] distantString =
        .ok pass₁ ∧
      survey twoAlgorithms (.ofRegistry twoAlgorithms {}) .unlimited (fun _ => 0)
        [⟨"Net", [⟨"send", true, none⟩]⟩] ∅ = .ok pass₂ ∧
      survey twoAlgorithms (.ofRegistry twoAlgorithms {}) .unlimited (fun _ => 0)
        [⟨"Net", [⟨"send", true, none⟩]⟩] distantString = .ok pass ∧
      ∀ identity native elapsed,
        (Report.assemble twoAlgorithms identity [pass₁, pass₂] native elapsed).forgetExternal =
          (Report.assemble twoAlgorithms identity [pass] native elapsed).forgetExternal := by
  apply survey_parts twoAlgorithms {} [] [⟨"Net", [⟨"send", true, none⟩]⟩] distantString ∅
    distantString
  · intro value l
    have hempty : ¬ StringTable.Refers ∅ value l := by
      rintro ⟨_, h, _⟩
      cases h
    exact (or_iff_left hempty).symm
  · intro i
    rfl
  · intro i
    rfl
  · intro i
    rfl

end Managed

end CryptoSurvey
