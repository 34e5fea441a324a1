import CryptoSurvey.Proofs.Records
import CryptoSurvey.Report.Assembly
import Mathlib.Algebra.GroupWithZero.Nat
import Mathlib.Data.List.Forall2

namespace CryptoSurvey

def MethodRecord.movedTo (l : Location) (r : MethodRecord) : MethodRecord :=
  { r with className := l.className, name := l.method }

namespace ClassRecord

theorem get?_label (registry : Registry) (c : ClassRecord) (m : String) :
    (c.label registry).methods.get? m = (c.methods.get? m).map fun r =>
      { r with primary? := primaryAlgorithm? registry r.evidence.toList } :=
  OrderedMap.get?_map _ _ _

theorem WellFiled.label {c : ClassRecord} (hc : c.WellFiled) (registry : Registry) :
    (c.label registry).WellFiled := by
  intro m r h
  rw [get?_label, Option.map_eq_some_iff] at h
  obtain ⟨q, hq, rfl⟩ := h
  exact hc m q hq

/-- The records that the operations on records build if only records of one class are merged, and those
that a report hands out. A method may be added without evidence. -/
inductive Built : ClassRecord → Prop
  | new (name : String) : Built { name }
  | add {c : ClassRecord} (h : Built c) (e : Evidence) : Built (c.add e)
  | addToMethod {c : ClassRecord} (h : Built c) (m : String) (external : Bool)
      (es : List Evidence) : Built (c.addToMethod m external es)
  | mergeMethod {c : ClassRecord} (h : Built c) (m : String) (external : Bool)
      (r : MethodRecord) : Built (c.alterMethod m external (·.merge r))
  | merge {c d : ClassRecord} (hc : Built c) (hd : Built d) (hn : d.name = c.name) :
      Built (c.merge d)
  | emitted {c : ClassRecord} (h : Built c) (registry : Registry) :
      Built (c.prune.label registry)

theorem Built.wellFiled {c : ClassRecord} (h : c.Built) : c.WellFiled := by
  induction h with
  | new name =>
    intro m r hr
    cases hr
  | add h e ih => exact ih
  | addToMethod h m external es ih => exact ih.addToMethod m external es
  | mergeMethod h m external r ih => exact ih.alterMethod m external fun _ => ⟨rfl, rfl⟩
  | merge hc hd hn ihc ihd => exact ihc.merge ihd hn
  | emitted h registry ih => exact ih.prune.label registry

theorem methodShows_label {registry : Registry} {c : ClassRecord} {m : String} {e : Evidence} :
    (c.label registry).MethodShows m e ↔ c.MethodShows m e := by
  rw [MethodShows, MethodShows, get?_label]
  cases c.methods.get? m with
  | none => simp
  | some r => simp

def unlabelled (c : ClassRecord) : ClassRecord :=
  { c with methods := c.methods.map fun _ r => { r with primary? := none }, primary? := none }

theorem get?_unlabelled (c : ClassRecord) (m : String) :
    c.unlabelled.methods.get? m = (c.methods.get? m).map fun r => { r with primary? := none } :=
  OrderedMap.get?_map _ _ _

theorem allEvidence_unlabelled (c : ClassRecord) : c.unlabelled.allEvidence = c.allEvidence := by
  simp [allEvidence, unlabelled, OrderedMap.values, OrderedMap.map, List.flatMap_map]

theorem label_unlabelled (registry : Registry) (c : ClassRecord) :
    c.unlabelled.label registry = c.label registry := by
  have hm : (c.unlabelled.label registry).methods = (c.label registry).methods := by
    apply OrderedMap.ext_get?
    intro m
    rw [get?_label, get?_label, get?_unlabelled, Option.map_map]
    rfl
  simp only [label] at hm ⊢
  rw [hm, allEvidence_unlabelled]
  rfl

theorem unlabelled_label (registry : Registry) (c : ClassRecord) :
    (c.label registry).unlabelled = c.unlabelled := by
  have hm : (c.label registry).unlabelled.methods = c.unlabelled.methods := by
    apply OrderedMap.ext_get?
    intro m
    rw [get?_unlabelled, get?_unlabelled, get?_label, Option.map_map]
    rfl
  exact congrArg (ClassRecord.mk c.name c.evidence · none) hm

theorem label_label (registry : Registry) (c : ClassRecord) :
    (c.label registry).label registry = c.label registry := by
  rw [← label_unlabelled, unlabelled_label, label_unlabelled]

theorem prune_label_prune (registry : Registry) (c : ClassRecord) :
    (c.prune.label registry).prune = c.prune.label registry := by
  apply Pruned.prune_eq
  intro m r h
  rw [get?_label, Option.map_eq_some_iff] at h
  obtain ⟨q, hq, rfl⟩ := h
  exact (get?_prune.1 hq).2

section MapMethods

def mapMethods (f : String → MethodRecord → MethodRecord) (c : ClassRecord) : ClassRecord :=
  { c with methods := c.methods.map f }

/-- The change keeps the evidence, and labels are neither looked at nor changed. -/
structure KeepsFindings (f : String → MethodRecord → MethodRecord) : Prop where
  evidence : ∀ m r, (f m r).evidence = r.evidence
  label : ∀ m r primary?, f m { r with primary? } = { f m r with primary? }

variable {f : String → MethodRecord → MethodRecord} (hf : KeepsFindings f)

theorem get?_mapMethods (f : String → MethodRecord → MethodRecord) (c : ClassRecord) (m : String) :
    (c.mapMethods f).methods.get? m = (c.methods.get? m).map (f m) :=
  OrderedMap.get?_map _ _ _

include hf

theorem KeepsFindings.hasEvidence (m : String) (r : MethodRecord) :
    (f m r).hasEvidence = r.hasEvidence := by
  rw [MethodRecord.hasEvidence, hf.evidence, MethodRecord.hasEvidence]

theorem methodShows_mapMethods {c : ClassRecord} {m : String} {e : Evidence} :
    (c.mapMethods f).MethodShows m e ↔ c.MethodShows m e := by
  rw [MethodShows, MethodShows, get?_mapMethods]
  cases c.methods.get? m with
  | none => simp
  | some r => simp [hf.evidence]

theorem allEvidence_mapMethods (c : ClassRecord) : (c.mapMethods f).allEvidence = c.allEvidence := by
  simp [allEvidence, mapMethods, OrderedMap.values, OrderedMap.map, List.flatMap_map, hf.evidence]

theorem mapMethods_label (registry : Registry) (c : ClassRecord) :
    (c.label registry).mapMethods f = (c.mapMethods f).label registry := by
  have hm : ((c.label registry).mapMethods f).methods =
      ((c.mapMethods f).label registry).methods := by
    apply OrderedMap.ext_get?
    intro m
    rw [get?_mapMethods, get?_label, get?_label, get?_mapMethods, Option.map_map, Option.map_map]
    congr 1
    funext r
    exact (hf.label m r _).trans <| congrArg (fun es : OrderedSet Evidence =>
      { f m r with primary? := primaryAlgorithm? registry es.toList }) (hf.evidence m r).symm
  have hp : ((c.mapMethods f).label registry).primary? = (c.label registry).primary? :=
    congrArg (primaryAlgorithm? registry) (allEvidence_mapMethods hf c)
  rw [ClassRecord.mk.injEq]
  exact ⟨rfl, rfl, hm, hp.symm⟩

theorem mapMethods_prune (c : ClassRecord) : c.prune.mapMethods f = (c.mapMethods f).prune := by
  have hm : (c.prune.mapMethods f).methods = (c.mapMethods f).prune.methods := by
    apply OrderedMap.ext_get?
    intro m
    apply Option.ext
    intro r
    rw [get?_mapMethods, Option.map_eq_some_iff, get?_prune, get?_mapMethods,
      Option.map_eq_some_iff]
    constructor
    · rintro ⟨q, hq, rfl⟩
      obtain ⟨hq, he⟩ := get?_prune.1 hq
      exact ⟨⟨q, hq, rfl⟩, (hf.hasEvidence m q).trans he⟩
    · rintro ⟨⟨q, hq, rfl⟩, he⟩
      exact ⟨q, get?_prune.2 ⟨hq, (hf.hasEvidence m q).symm.trans he⟩, rfl⟩
  exact congrArg (ClassRecord.mk c.name c.evidence · c.primary?) hm

theorem hasEvidence_mapMethods (c : ClassRecord) :
    (c.mapMethods f).hasEvidence = c.hasEvidence := by
  rw [Bool.eq_iff_iff, hasEvidence_iff, hasEvidence_iff]
  simp only [methodShows_mapMethods hf]
  rfl

end MapMethods

/-- Records of one class that show the same evidence and agree on which methods are external. -/
structure Agrees (c d : ClassRecord) : Prop where
  name : c.name = d.name
  evidence : ∀ e, e ∈ c.evidence ↔ e ∈ d.evidence
  methodShows : ∀ m e, c.MethodShows m e ↔ d.MethodShows m e
  external : ∀ m, c.External m ↔ d.External m

theorem Agrees.symm {c d : ClassRecord} (h : c.Agrees d) : d.Agrees c where
  name := h.name.symm
  evidence e := (h.evidence e).symm
  methodShows m e := (h.methodShows m e).symm
  external m := (h.external m).symm

/-- The records of a method in both say that it is in the same place. -/
def SameLocations (c d : ClassRecord) : Prop :=
  ∀ m r q, c.methods.get? m = some r → d.methods.get? m = some q → r.location = q.location

theorem SameLocations.symm {c d : ClassRecord} (h : c.SameLocations d) : d.SameLocations c :=
  fun m r q hr hq => (h m q r hq hr).symm

theorem Agrees.get?_prune_unlabelled {c d : ClassRecord} (h : c.Agrees d) (hl : c.SameLocations d)
    {m : String} {r : MethodRecord} (hr : c.prune.unlabelled.methods.get? m = some r) :
    d.prune.unlabelled.methods.get? m = some r := by
  rw [get?_unlabelled, Option.map_eq_some_iff] at hr
  obtain ⟨q, hq, rfl⟩ := hr
  obtain ⟨hq, he⟩ := get?_prune.1 hq
  obtain ⟨e, he⟩ := MethodRecord.hasEvidence_iff.1 he
  obtain ⟨s, hs, he'⟩ := (h.methodShows m e).1 ⟨q, hq, he⟩
  rw [get?_unlabelled, get?_prune.2 ⟨hs, MethodRecord.hasEvidence_iff.2 ⟨e, he'⟩⟩, Option.map_some]
  have hlocation := hl m q s hq hs
  have hext := h.external m
  have hev := h.methodShows m
  simp only [External, hq, hs, Option.some.injEq, forall_eq'] at hext
  simp only [MethodShows, hq, hs, Option.some.injEq, exists_eq_left'] at hev
  rw [MethodRecord.location, MethodRecord.location, Location.mk.injEq] at hlocation
  rw [Option.some.injEq, MethodRecord.mk.injEq]
  exact ⟨hlocation.1.symm, hlocation.2.symm, (Bool.eq_iff_iff.2 hext).symm,
    (OrderedSet.ext_mem hev).symm, rfl⟩

theorem Agrees.prune_label_eq {c d : ClassRecord} (h : c.Agrees d) (hl : c.SameLocations d)
    (registry : Registry) : c.prune.label registry = d.prune.label registry := by
  have hm : c.prune.unlabelled.methods = d.prune.unlabelled.methods := by
    apply OrderedMap.ext_get?
    intro m
    apply Option.ext
    intro r
    exact ⟨h.get?_prune_unlabelled hl, h.symm.get?_prune_unlabelled hl.symm⟩
  have he : c.prune.unlabelled = d.prune.unlabelled := by
    rw [ClassRecord.mk.injEq]
    exact ⟨h.name, OrderedSet.ext_mem h.evidence, hm, rfl⟩
  rw [← label_unlabelled, he, label_unlabelled]

/-- The record with every method where it is filed. -/
def readdressed (c : ClassRecord) : ClassRecord :=
  c.mapMethods fun m => MethodRecord.movedTo ⟨c.name, m⟩

end ClassRecord

/-- Where the first record of a method says that it is. -/
def firstLocation? (cs : List ClassRecord) (name m : String) : Option Location :=
  cs.findSome? fun c => if c.name = name then c.location? m else none

theorem exists_of_firstLocation? {cs : List ClassRecord} {name m : String} {l : Location}
    (h : firstLocation? cs name m = some l) : ∃ q, RecordedMethod cs name m q ∧ q.location = l := by
  obtain ⟨c, hc, hl⟩ := List.exists_of_findSome?_eq_some h
  split at hl
  · rename_i hn
    obtain ⟨q, hq, rfl⟩ := Option.map_eq_some_iff.1 hl
    exact ⟨q, ⟨c, hc, hn, hq⟩, rfl⟩
  · cases hl

namespace ClassTable

/-- The table of what is reported: classes without evidence are dropped, the others are pruned and
labelled. -/
def emitted (registry : Registry) (t : ClassTable) : ClassTable :=
  t.filterMap fun _ c => if c.prune.hasEvidence then some (c.prune.label registry) else none

theorem get?_emitted {registry : Registry} {t : ClassTable} {name : String} {c : ClassRecord} :
    (t.emitted registry).get? name = some c ↔
      ∃ d, t.get? name = some d ∧ d.hasEvidence = true ∧ d.prune.label registry = c := by
  rw [emitted, OrderedMap.get?_filterMap, Option.bind_eq_some_iff]
  refine exists_congr fun d => and_congr_right fun _ => ?_
  rw [ClassRecord.hasEvidence_prune]
  split <;> simp [*]

theorem Named.emitted {t : ClassTable} (ht : t.Named) (registry : Registry) :
    (t.emitted registry).Named := by
  intro name c h
  obtain ⟨d, hd, _, rfl⟩ := get?_emitted.1 h
  exact ht name d hd

theorem WellFiled.emitted {t : ClassTable} (ht : t.WellFiled) (registry : Registry) :
    (t.emitted registry).WellFiled := by
  intro name c h
  obtain ⟨d, hd, _, rfl⟩ := get?_emitted.1 h
  obtain ⟨hn, hw⟩ := ht name d hd
  exact ⟨hn, hw.prune.label registry⟩

theorem classShows_emitted {registry : Registry} {t : ClassTable} {name : String} {e : Evidence} :
    (t.emitted registry).ClassShows name e ↔ t.ClassShows name e := by
  constructor
  · rintro ⟨c, hc, he⟩
    obtain ⟨d, hd, _, rfl⟩ := get?_emitted.1 hc
    exact ⟨d, hd, he⟩
  · rintro ⟨d, hd, he⟩
    have hev : d.hasEvidence = true := ClassRecord.hasEvidence_iff.2 (.inl ⟨e, he⟩)
    exact ⟨_, get?_emitted.2 ⟨d, hd, hev, rfl⟩, he⟩

theorem methodShows_emitted {registry : Registry} {t : ClassTable} {name m : String}
    {e : Evidence} : (t.emitted registry).MethodShows name m e ↔ t.MethodShows name m e := by
  constructor
  · rintro ⟨c, hc, he⟩
    obtain ⟨d, hd, _, rfl⟩ := get?_emitted.1 hc
    exact ⟨d, hd, ClassRecord.methodShows_prune.1 (ClassRecord.methodShows_label.1 he)⟩
  · rintro ⟨d, hd, he⟩
    have hev : d.hasEvidence = true := ClassRecord.hasEvidence_iff.2 (.inr ⟨m, e, he⟩)
    exact ⟨_, get?_emitted.2 ⟨d, hd, hev, rfl⟩,
      ClassRecord.methodShows_label.2 (ClassRecord.methodShows_prune.2 he)⟩

theorem records_of_emitted {registry : Registry} {t : ClassTable} {name m : String}
    {r : MethodRecord} (h : (t.emitted registry).Records name m r) :
    ∃ q, t.Records name m q ∧ q.hasEvidence = true ∧ q.evidence = r.evidence ∧
      q.external = r.external ∧ q.location = r.location := by
  obtain ⟨c, hc, hr⟩ := h
  obtain ⟨d, hd, _, rfl⟩ := get?_emitted.1 hc
  rw [ClassRecord.get?_label, Option.map_eq_some_iff] at hr
  obtain ⟨q, hq, rfl⟩ := hr
  obtain ⟨hq, he⟩ := ClassRecord.get?_prune.1 hq
  exact ⟨q, ⟨d, hd, hq⟩, he, rfl, rfl, rfl⟩

theorem emitted_emitted (registry : Registry) (t : ClassTable) :
    (t.emitted registry).emitted registry = t.emitted registry := by
  apply OrderedMap.ext_get?
  intro name
  apply Option.ext
  intro c
  rw [get?_emitted]
  constructor
  · rintro ⟨d, hd, _, rfl⟩
    obtain ⟨b, hb, hev, rfl⟩ := get?_emitted.1 hd
    rw [ClassRecord.prune_label_prune, ClassRecord.label_label]
    exact hd
  · intro h
    obtain ⟨b, hb, hev, rfl⟩ := get?_emitted.1 h
    refine ⟨_, h, ?_, ?_⟩
    · rw [ClassRecord.hasEvidence_iff] at hev ⊢
      simp only [ClassRecord.methodShows_label, ClassRecord.methodShows_prune]
      exact hev
    · rw [ClassRecord.prune_label_prune, ClassRecord.label_label]

/-- Tables that show the same evidence and agree on which methods are external. -/
structure Agrees (t u : ClassTable) : Prop where
  classShows : ∀ name e, t.ClassShows name e ↔ u.ClassShows name e
  methodShows : ∀ name m e, t.MethodShows name m e ↔ u.MethodShows name m e
  external : ∀ name m, t.External name m ↔ u.External name m

theorem Agrees.symm {t u : ClassTable} (h : t.Agrees u) : u.Agrees t where
  classShows name e := (h.classShows name e).symm
  methodShows name m e := (h.methodShows name m e).symm
  external name m := (h.external name m).symm

theorem Agrees.records {t u : ClassTable} (h : t.Agrees u) (ht : t.Named) (hu : u.Named)
    {name : String} {c d : ClassRecord} (hc : t.get? name = some c) (hd : u.get? name = some d) :
    c.Agrees d where
  name := (ht name c hc).trans (hu name d hd).symm
  evidence e := by simpa [ClassShows, hc, hd] using h.classShows name e
  methodShows m e := by simpa [MethodShows, hc, hd] using h.methodShows name m e
  external m := by
    simpa [External, Records, ClassRecord.External, hc, hd] using h.external name m

theorem Agrees.exists_record {t u : ClassTable} (h : t.Agrees u) {name : String} {c : ClassRecord}
    (hc : t.get? name = some c) (he : c.hasEvidence = true) : ∃ d, u.get? name = some d := by
  rcases ClassRecord.hasEvidence_iff.1 he with ⟨e, he⟩ | ⟨m, e, he⟩
  · obtain ⟨d, hd, _⟩ := (h.classShows name e).1 ⟨c, hc, he⟩
    exact ⟨d, hd⟩
  · obtain ⟨d, hd, _⟩ := (h.methodShows name m e).1 ⟨c, hc, he⟩
    exact ⟨d, hd⟩

/-- The records of a method in both say that it is in the same place. -/
def SameLocations (t u : ClassTable) : Prop :=
  ∀ name m r q, t.Records name m r → u.Records name m q → r.location = q.location

theorem SameLocations.symm {t u : ClassTable} (h : t.SameLocations u) : u.SameLocations t :=
  fun name m r q hr hq => (h name m q r hq hr).symm

theorem WellFiled.location {t : ClassTable} (ht : t.WellFiled) {name m : String} {r : MethodRecord}
    (h : t.Records name m r) : r.location = ⟨name, m⟩ := by
  obtain ⟨c, hc, hr⟩ := h
  obtain ⟨hn, hw⟩ := ht name c hc
  obtain ⟨hm, hcn⟩ := hw m r hr
  rw [MethodRecord.location, hm, hcn, hn]

theorem WellFiled.sameLocations {t u : ClassTable} (ht : t.WellFiled) (hu : u.WellFiled) :
    t.SameLocations u :=
  fun _ _ _ _ hr hq => (ht.location hr).trans (hu.location hq).symm

theorem Agrees.get?_emitted {t u : ClassTable} (h : t.Agrees u) (ht : t.Named) (hu : u.Named)
    (hl : t.SameLocations u) {registry : Registry} {name : String} {c : ClassRecord}
    (hc : (t.emitted registry).get? name = some c) :
    (u.emitted registry).get? name = some c := by
  obtain ⟨b, hb, he, rfl⟩ := ClassTable.get?_emitted.1 hc
  obtain ⟨d, hd⟩ := h.exists_record hb he
  have hbd : b.Agrees d := h.records ht hu hb hd
  have hl' : b.SameLocations d := fun m r q hr hq => hl name m r q ⟨b, hb, hr⟩ ⟨d, hd, hq⟩
  refine ClassTable.get?_emitted.2 ⟨d, hd, ?_, ?_⟩
  · rw [ClassRecord.hasEvidence_iff] at he ⊢
    simpa only [hbd.evidence, hbd.methodShows] using he
  · exact (hbd.prune_label_eq hl' registry).symm

theorem Agrees.emitted_eq_of_sameLocations {t u : ClassTable} (h : t.Agrees u) (ht : t.Named)
    (hu : u.Named) (hl : t.SameLocations u) (registry : Registry) :
    t.emitted registry = u.emitted registry := by
  apply OrderedMap.ext_get?
  intro name
  apply Option.ext
  intro c
  exact ⟨h.get?_emitted ht hu hl, h.symm.get?_emitted hu ht hl.symm⟩

theorem Agrees.emitted_eq {t u : ClassTable} (h : t.Agrees u) (ht : t.WellFiled)
    (hu : u.WellFiled) (registry : Registry) : t.emitted registry = u.emitted registry :=
  h.emitted_eq_of_sameLocations ht.named hu.named (ht.sameLocations hu) registry

section MapMethods

/-- Changes the records of the methods of every class, given its name. -/
def mapMethods (f : String → String → MethodRecord → MethodRecord) (t : ClassTable) : ClassTable :=
  t.map fun _ c => c.mapMethods (f c.name)

variable {f : String → String → MethodRecord → MethodRecord} {t : ClassTable} {name m : String}

theorem get?_mapMethods :
    (t.mapMethods f).get? name = (t.get? name).map fun c => c.mapMethods (f c.name) :=
  OrderedMap.get?_map _ _ _

theorem values_mapMethods :
    (t.mapMethods f).values = t.values.map fun c => c.mapMethods (f c.name) := by
  simp [mapMethods, OrderedMap.values, OrderedMap.map]

theorem classShows_mapMethods {e : Evidence} :
    (t.mapMethods f).ClassShows name e ↔ t.ClassShows name e := by
  rw [ClassShows, ClassShows, get?_mapMethods]
  cases t.get? name with
  | none => simp
  | some c => simp [ClassRecord.mapMethods]

theorem records_mapMethods {r : MethodRecord} :
    (t.mapMethods f).Records name m r ↔
      ∃ c q, t.get? name = some c ∧ c.methods.get? m = some q ∧ f c.name m q = r := by
  rw [Records, get?_mapMethods]
  cases t.get? name with
  | none => simp
  | some c => simp [ClassRecord.get?_mapMethods]

theorem Named.mapMethods (ht : t.Named) (f : String → String → MethodRecord → MethodRecord) :
    (t.mapMethods f).Named := by
  intro name c hc
  rw [get?_mapMethods, Option.map_eq_some_iff] at hc
  obtain ⟨d, hd, rfl⟩ := hc
  exact ht name d hd

variable (hf : ∀ name, ClassRecord.KeepsFindings (f name))
include hf

theorem methodShows_mapMethods {e : Evidence} :
    (t.mapMethods f).MethodShows name m e ↔ t.MethodShows name m e := by
  rw [MethodShows, MethodShows, get?_mapMethods]
  cases t.get? name with
  | none => simp
  | some c => simp [ClassRecord.methodShows_mapMethods (hf c.name)]

theorem emitted_mapMethods (registry : Registry) :
    (t.emitted registry).mapMethods f = (t.mapMethods f).emitted registry := by
  apply OrderedMap.ext_get?
  intro name
  rw [get?_mapMethods, emitted, emitted, OrderedMap.get?_filterMap, OrderedMap.get?_filterMap,
    get?_mapMethods]
  cases t.get? name with
  | none => rfl
  | some c =>
    simp only [Option.map_some, Option.bind_some, ClassRecord.hasEvidence_prune,
      ClassRecord.hasEvidence_mapMethods (hf c.name)]
    split
    · have hprune := ClassRecord.mapMethods_prune (hf c.name) c
      have hlabel := ClassRecord.mapMethods_label (hf c.name) registry c.prune
      rw [Option.map_some, ← hprune, ← hlabel]
      rfl
    · rfl

end MapMethods

section Readdressed

variable {t u : ClassTable}

/-- The table with every method where it is filed. -/
def readdressed (t : ClassTable) : ClassTable :=
  t.mapMethods fun name m => MethodRecord.movedTo ⟨name, m⟩

theorem keepsFindings_movedTo (name : String) :
    ClassRecord.KeepsFindings fun m => MethodRecord.movedTo ⟨name, m⟩ :=
  ⟨fun _ _ => rfl, fun _ _ _ => rfl⟩

theorem Named.location_readdressed (ht : t.Named) {name m : String} {r : MethodRecord}
    (h : t.readdressed.Records name m r) : r.location = ⟨name, m⟩ := by
  obtain ⟨c, q, hc, _, rfl⟩ := records_mapMethods.1 h
  rw [← ht name c hc]
  rfl

theorem external_readdressed {name m : String} :
    t.readdressed.External name m ↔ t.External name m := by
  simp only [External, readdressed, records_mapMethods]
  constructor
  · rintro h r ⟨c, hc, hr⟩
    have hmoved := h _ ⟨c, r, hc, hr, rfl⟩
    exact hmoved
  · rintro h _ ⟨c, q, hc, hq, rfl⟩
    exact h q ⟨c, hc, hq⟩

theorem Agrees.readdressed (h : t.Agrees u) : t.readdressed.Agrees u.readdressed where
  classShows name e := by
    rw [ClassTable.readdressed, ClassTable.readdressed, classShows_mapMethods,
      classShows_mapMethods, h.classShows]
  methodShows name m e := by
    rw [ClassTable.readdressed, ClassTable.readdressed,
      methodShows_mapMethods keepsFindings_movedTo, methodShows_mapMethods keepsFindings_movedTo,
      h.methodShows]
  external name m := by rw [external_readdressed, external_readdressed, h.external]

theorem Agrees.map_readdressed_eq (h : t.Agrees u) (ht : t.Named) (hu : u.Named)
    (registry : Registry) :
    (t.emitted registry).values.map ClassRecord.readdressed =
      (u.emitted registry).values.map ClassRecord.readdressed := by
  have hl : t.readdressed.SameLocations u.readdressed := fun _ _ _ _ hr hq =>
    (ht.location_readdressed hr).trans (hu.location_readdressed hq).symm
  have hemitted := h.readdressed.emitted_eq_of_sameLocations (ht.mapMethods _) (hu.mapMethods _) hl
    registry
  rw [ClassTable.readdressed, ClassTable.readdressed, ← emitted_mapMethods keepsFindings_movedTo,
    ← emitted_mapMethods keepsFindings_movedTo] at hemitted
  have hvalues := congrArg OrderedMap.values hemitted
  rwa [values_mapMethods, values_mapMethods] at hvalues

end Readdressed

section Fold

variable {cs : List ClassRecord} {name m : String}

theorem classShows_foldl_take {e : Evidence} :
    (cs.foldl take ∅).ClassShows name e ↔ ShownInClass cs name e := by
  refine (foldl_iff_or (P := (ClassShows · name e)) (f := take)
    (fun _ _ => classShows_take) cs ∅).trans ?_
  simp [ClassShows, ShownInClass]

theorem methodShows_foldl_take {e : Evidence} :
    (cs.foldl take ∅).MethodShows name m e ↔ ShownInMethod cs name m e := by
  refine (foldl_iff_or (P := (MethodShows · name m e)) (f := take)
    (fun _ _ => methodShows_take) cs ∅).trans ?_
  simp [MethodShows, shownInMethod_iff]

theorem external_foldl_take :
    (cs.foldl take ∅).External name m ↔
      ∀ r, RecordedMethod cs name m r → r.external = true := by
  refine (foldl_iff_and (P := (External · name m)) (f := take)
    (fun _ _ => external_take) cs ∅).trans ?_
  constructor
  · rintro ⟨_, h⟩ r ⟨c, hc, hn, hr⟩
    exact h c hc hn r hr
  · intro h
    refine ⟨?_, fun c hc hn r hr => h r ⟨c, hc, hn, hr⟩⟩
    rintro r ⟨c, hc, _⟩
    cases hc

theorem named_foldl_take (cs : List ClassRecord) : (cs.foldl take ∅).Named := by
  refine List.foldlRecOn cs take ?_ fun t ht c _ => ht.take c
  intro name c hc
  cases hc

theorem location?_foldl_take (t : ClassTable) :
    (cs.foldl take t).location? name m = (t.location? name m).or (firstLocation? cs name m) := by
  induction cs generalizing t with
  | nil => simp [firstLocation?]
  | cons c cs ih =>
    rw [List.foldl_cons, ih, location?_take, Option.or_assoc, firstLocation?, firstLocation?,
      List.findSome?_cons]
    cases (if c.name = name then c.location? m else none) with
    | none => rfl
    | some l => rfl

theorem firstLocation?_eq_of_records {r : MethodRecord} (h : (cs.foldl take ∅).Records name m r) :
    firstLocation? cs name m = some r.location := by
  rw [← location?_eq_of_records h, location?_foldl_take]
  rfl

theorem wellFiled_foldl_take (h : ∀ c ∈ cs, c.WellFiled) : (cs.foldl take ∅).WellFiled := by
  refine List.foldlRecOn cs take ?_ fun t ht c hc => ht.take (h c hc)
  intro name c hc
  cases hc

theorem foldl_take_agrees {cs ds : List ClassRecord} (h : ∀ c, c ∈ cs ↔ c ∈ ds) :
    (cs.foldl take ∅).Agrees (ds.foldl take ∅) where
  classShows name e := by
    simp only [classShows_foldl_take, ShownInClass, h]
  methodShows name m e := by
    simp only [methodShows_foldl_take, shownInMethod_iff, h]
  external name m := by
    simp only [external_foldl_take, RecordedMethod, h]

theorem get?_foldl_take_of_pairwise {t : ClassTable} (h : cs.Pairwise fun c d => c.name < d.name)
    (ht : ∀ c ∈ cs, t.get? c.name = none) {c : ClassRecord} :
    (cs.foldl take t).get? name = some c ↔ t.get? name = some c ∨ c ∈ cs ∧ c.name = name := by
  induction cs generalizing t with
  | nil => simp
  | cons b cs ih =>
    rw [List.pairwise_cons] at h
    rw [List.forall_mem_cons] at ht
    have hrest : ∀ d ∈ cs, (t.take b).get? d.name = none := by
      intro d hd
      have hne : b.name ≠ d.name := fun hn => String.lt_irrefl _ (hn ▸ h.1 d hd)
      rw [get?_take_of_ne hne]
      exact ht.2 d hd
    rw [List.foldl_cons, ih h.2 hrest]
    by_cases hn : b.name = name
    · subst hn
      rw [get?_take_self, ht.1]
      simp only [Option.merge_none_left, Option.some.injEq, reduceCtorEq, false_or, List.mem_cons]
      grind
    · rw [get?_take_of_ne hn, List.mem_cons]
      grind

theorem Named.foldl_take_values {t : ClassTable} (ht : t.Named) :
    t.values.foldl ClassTable.take ∅ = t := by
  apply OrderedMap.ext_get?
  intro name
  apply Option.ext
  intro c
  rw [get?_foldl_take_of_pairwise ht.pairwise_values (fun _ _ => rfl), ht.mem_values]
  simp

end Fold

end ClassTable

namespace Report

theorem assemble_classes (registry : Registry) (identity : Identity) (passes : List ManagedPass)
    (native : NativePass) (elapsed : Nat) :
    (assemble registry identity passes native elapsed).classes =
      (((passes.flatMap (·.classes)).foldl ClassTable.take ∅).emitted registry).values := by
  rw [List.foldl_flatMap]
  simp only [assemble, mergeClasses, ClassTable.emitted, OrderedMap.values, OrderedMap.filterMap,
    List.filterMap_map, List.map_filterMap]
  congr 1
  funext e
  simp only [Function.comp_apply]
  split <;> rfl

/-- A report holds the united evidence of passes, class by class and method by method. A method is
where the first of its records says that it is. -/
structure Unites (r : Report) (passes : List ManagedPass) (native : NativePass) : Prop where
  increasing : r.classes.Pairwise fun c d => c.name < d.name
  classEvidence : ∀ name e,
    ShownInClass r.classes name e ↔ ∃ p ∈ passes, ShownInClass p.classes name e
  methodEvidence : ∀ name m e,
    ShownInMethod r.classes name m e ↔ ∃ p ∈ passes, ShownInMethod p.classes name m e
  /-- Records of the method without evidence count as well. -/
  external : ∀ name m q, RecordedMethod r.classes name m q →
    (q.external = true ↔
      ∀ p ∈ passes, ∀ q', RecordedMethod p.classes name m q' → q'.external = true)
  location : ∀ name m q, RecordedMethod r.classes name m q →
    firstLocation? (passes.flatMap (·.classes)) name m = some q.location
  methodReported : ∀ name m, (∃ q, RecordedMethod r.classes name m q) ↔
    ∃ p ∈ passes, ∃ e, ShownInMethod p.classes name m e
  classReported : ∀ name, (∃ c ∈ r.classes, c.name = name) ↔
    ∃ p ∈ passes, ∃ e, ShownInClass p.classes name e ∨ ∃ m, ShownInMethod p.classes name m e
  classesScanned : r.counters.classesScanned = (passes.map (·.classesScanned)).sum
  methodsScanned : r.counters.methodsScanned = (passes.map (·.methodsScanned)).sum
  libraries : r.libraries = native.libraries
  skippedLibraries : r.skippedLibraries = native.skipped

theorem shownInClass_flatMap {passes : List ManagedPass} {name : String} {e : Evidence} :
    ShownInClass (passes.flatMap (·.classes)) name e ↔
      ∃ p ∈ passes, ShownInClass p.classes name e := by
  simp only [ShownInClass, List.mem_flatMap]
  grind

theorem recordedMethod_flatMap {passes : List ManagedPass} {name m : String} {r : MethodRecord} :
    RecordedMethod (passes.flatMap (·.classes)) name m r ↔
      ∃ p ∈ passes, RecordedMethod p.classes name m r := by
  simp only [RecordedMethod, List.mem_flatMap]
  grind

theorem shownInMethod_flatMap {passes : List ManagedPass} {name m : String} {e : Evidence} :
    ShownInMethod (passes.flatMap (·.classes)) name m e ↔
      ∃ p ∈ passes, ShownInMethod p.classes name m e := by
  simp only [ShownInMethod, recordedMethod_flatMap]
  grind

section Assemble

variable {registry : Registry} {identity : Identity} {passes : List ManagedPass}
variable {native : NativePass} {elapsed : Nat} {name m : String}

theorem named_emitted (registry : Registry) (passes : List ManagedPass) :
    (((passes.flatMap (·.classes)).foldl ClassTable.take ∅).emitted registry).Named :=
  (ClassTable.named_foldl_take _).emitted registry

theorem pairwise_assemble_classes :
    (assemble registry identity passes native elapsed).classes.Pairwise
      fun c d => c.name < d.name := by
  rw [assemble_classes]
  exact (named_emitted registry passes).pairwise_values

theorem shownInClass_assemble {e : Evidence} :
    ShownInClass (assemble registry identity passes native elapsed).classes name e ↔
      ∃ p ∈ passes, ShownInClass p.classes name e := by
  rw [assemble_classes, (named_emitted registry passes).shownInClass_values,
    ClassTable.classShows_emitted, ClassTable.classShows_foldl_take, shownInClass_flatMap]

theorem shownInMethod_assemble {e : Evidence} :
    ShownInMethod (assemble registry identity passes native elapsed).classes name m e ↔
      ∃ p ∈ passes, ShownInMethod p.classes name m e := by
  rw [assemble_classes, (named_emitted registry passes).shownInMethod_values,
    ClassTable.methodShows_emitted, ClassTable.methodShows_foldl_take, shownInMethod_flatMap]

theorem recordedMethod_assemble {q : MethodRecord}
    (hq : RecordedMethod (assemble registry identity passes native elapsed).classes name m q) :
    ∃ r, ((passes.flatMap (·.classes)).foldl ClassTable.take ∅).Records name m r ∧
      r.hasEvidence = true ∧ r.evidence = q.evidence ∧ r.external = q.external ∧
      r.location = q.location := by
  rw [assemble_classes, (named_emitted registry passes).recordedMethod_values] at hq
  exact ClassTable.records_of_emitted hq

theorem external_assemble {q : MethodRecord}
    (hq : RecordedMethod (assemble registry identity passes native elapsed).classes name m q) :
    q.external = true ↔
      ∀ p ∈ passes, ∀ q', RecordedMethod p.classes name m q' → q'.external = true := by
  obtain ⟨r, ⟨c, hc, hr⟩, _, _, hx, _⟩ := recordedMethod_assemble hq
  have hall := @ClassTable.external_foldl_take (passes.flatMap (·.classes)) name m
  simp only [recordedMethod_flatMap] at hall
  rw [← hx]
  constructor
  · intro he p hp q' hq'
    refine hall.1 ?_ q' ⟨p, hp, hq'⟩
    rintro s ⟨d, hd, hs⟩
    rw [hc, Option.some.injEq] at hd
    subst hd
    rw [hr, Option.some.injEq] at hs
    exact hs ▸ he
  · intro he
    refine hall.2 ?_ r ⟨c, hc, hr⟩
    rintro q' ⟨p, hp, hq'⟩
    exact he p hp q' hq'

theorem methodReported_assemble :
    (∃ q, RecordedMethod (assemble registry identity passes native elapsed).classes name m q) ↔
      ∃ p ∈ passes, ∃ e, ShownInMethod p.classes name m e := by
  constructor
  · rintro ⟨q, hq⟩
    obtain ⟨r, _, he, hrq, _⟩ := recordedMethod_assemble hq
    obtain ⟨e, he⟩ := MethodRecord.hasEvidence_iff.1 he
    obtain ⟨p, hp, he⟩ := shownInMethod_assemble.1 ⟨q, hq, hrq ▸ he⟩
    exact ⟨p, hp, e, he⟩
  · rintro ⟨p, hp, e, he⟩
    obtain ⟨q, hq, _⟩ := shownInMethod_assemble.2 ⟨p, hp, he⟩
    exact ⟨q, hq⟩

theorem classReported_assemble :
    (∃ c ∈ (assemble registry identity passes native elapsed).classes, c.name = name) ↔
      ∃ p ∈ passes, ∃ e, ShownInClass p.classes name e ∨ ∃ m, ShownInMethod p.classes name m e := by
  constructor
  · rintro ⟨c, hc, rfl⟩
    have hmem := hc
    rw [assemble_classes, OrderedMap.mem_values_iff] at hmem
    obtain ⟨k, hk⟩ := hmem
    obtain ⟨d, hd, hev, rfl⟩ := ClassTable.get?_emitted.1 hk
    rcases ClassRecord.hasEvidence_iff.1 hev with ⟨e, he⟩ | ⟨m, e, he⟩
    · obtain ⟨p, hp, he⟩ := shownInClass_assemble.1 ⟨_, hc, rfl, he⟩
      exact ⟨p, hp, e, .inl he⟩
    · have he' : (d.prune.label registry).MethodShows m e :=
        ClassRecord.methodShows_label.2 (ClassRecord.methodShows_prune.2 he)
      obtain ⟨p, hp, he⟩ := shownInMethod_assemble.1 (shownInMethod_iff.2 ⟨_, hc, rfl, he'⟩)
      exact ⟨p, hp, e, .inr ⟨m, he⟩⟩
  · rintro ⟨p, hp, e, he | ⟨m, he⟩⟩
    · obtain ⟨c, hc, hn, _⟩ := shownInClass_assemble.2 ⟨p, hp, he⟩
      exact ⟨c, hc, hn⟩
    · obtain ⟨q, ⟨c, hc, hn, _⟩, _⟩ := shownInMethod_assemble.2 ⟨p, hp, he⟩
      exact ⟨c, hc, hn⟩

theorem location_assemble {q : MethodRecord}
    (hq : RecordedMethod (assemble registry identity passes native elapsed).classes name m q) :
    firstLocation? (passes.flatMap (·.classes)) name m = some q.location := by
  obtain ⟨r, hr, _, _, _, hlocation⟩ := recordedMethod_assemble hq
  rw [← hlocation]
  exact ClassTable.firstLocation?_eq_of_records hr

theorem assemble_unites : (assemble registry identity passes native elapsed).Unites passes native where
  increasing := pairwise_assemble_classes
  classEvidence _ _ := shownInClass_assemble
  methodEvidence _ _ _ := shownInMethod_assemble
  external _ _ _ := external_assemble
  location _ _ _ := location_assemble
  methodReported _ _ := methodReported_assemble
  classReported _ := classReported_assemble
  classesScanned := by rw [List.sum_eq_foldl, List.foldl_map]; rfl
  methodsScanned := by rw [List.sum_eq_foldl, List.foldl_map]; rfl
  libraries := rfl
  skippedLibraries := rfl

theorem assemble_reported {pass : ManagedPass}
    (hp : pass.classes = (assemble registry identity passes native elapsed).classes) :
    (assemble registry identity [pass] native elapsed).classes = pass.classes := by
  rw [assemble_classes] at hp
  rw [assemble_classes, List.flatMap_singleton, hp, (named_emitted registry passes).foldl_take_values,
    ClassTable.emitted_emitted]

end Assemble

/-- The passes have the same records of classes, whatever their order and number. So have passes in
another order or with their classes in another order, and passes of which some are repeated. -/
def SameRecords (passes passes' : List ManagedPass) : Prop :=
  ∀ c, (∃ p ∈ passes', c ∈ p.classes) ↔ ∃ p ∈ passes, c ∈ p.classes

/-- All records of a method say that it is in the same place. -/
def Settled (passes : List ManagedPass) : Prop :=
  ∀ name m q q', RecordedMethod (passes.flatMap (·.classes)) name m q →
    RecordedMethod (passes.flatMap (·.classes)) name m q' → q.location = q'.location

theorem settled_of_built {passes : List ManagedPass}
    (h : ∀ p ∈ passes, ∀ c ∈ p.classes, c.Built) : Settled passes := by
  have hlocation {name m : String} {q : MethodRecord}
      (hq : RecordedMethod (passes.flatMap (·.classes)) name m q) : q.location = ⟨name, m⟩ := by
    obtain ⟨c, hc, rfl, hq⟩ := hq
    obtain ⟨p, hp, hc⟩ := List.mem_flatMap.1 hc
    obtain ⟨hm, hn⟩ := (h p hp c hc).wellFiled m q hq
    rw [MethodRecord.location, hm, hn]
  intro name m q q' hq hq'
  rw [hlocation hq, hlocation hq']

namespace SameRecords

variable {registry : Registry} {identity : Identity} {passes passes' : List ManagedPass}
variable {native : NativePass} {elapsed : Nat} (h : SameRecords passes passes')
include h

theorem agrees : ((passes'.flatMap (·.classes)).foldl ClassTable.take ∅).Agrees
    ((passes.flatMap (·.classes)).foldl ClassTable.take ∅) := by
  apply ClassTable.foldl_take_agrees
  intro c
  rw [List.mem_flatMap, List.mem_flatMap]
  exact h c

theorem map_readdressed_eq :
    (assemble registry identity passes' native elapsed).classes.map ClassRecord.readdressed =
      (assemble registry identity passes native elapsed).classes.map ClassRecord.readdressed := by
  rw [assemble_classes, assemble_classes]
  exact h.agrees.map_readdressed_eq (ClassTable.named_foldl_take _) (ClassTable.named_foldl_take _)
    registry

theorem classes_eq (hl : ((passes'.flatMap (·.classes)).foldl ClassTable.take ∅).SameLocations
    ((passes.flatMap (·.classes)).foldl ClassTable.take ∅)) :
    (assemble registry identity passes' native elapsed).classes =
      (assemble registry identity passes native elapsed).classes := by
  rw [assemble_classes, assemble_classes]
  exact congrArg OrderedMap.values (h.agrees.emitted_eq_of_sameLocations
    (ClassTable.named_foldl_take _) (ClassTable.named_foldl_take _) hl registry)

theorem classes_eq_of_settled (hs : Settled passes) :
    (assemble registry identity passes' native elapsed).classes =
      (assemble registry identity passes native elapsed).classes := by
  refine h.classes_eq ?_
  intro name m r q hr hq
  obtain ⟨r', ⟨c, hc, hn, hr'⟩, hrl⟩ :=
    exists_of_firstLocation? (ClassTable.firstLocation?_eq_of_records hr)
  obtain ⟨q', hq', hql⟩ := exists_of_firstLocation? (ClassTable.firstLocation?_eq_of_records hq)
  have hc' : c ∈ passes.flatMap (·.classes) :=
    List.mem_flatMap.2 ((h c).1 (List.mem_flatMap.1 hc))
  rw [← hrl, ← hql]
  exact hs name m r' q' ⟨c, hc', hn, hr'⟩ hq'

end SameRecords

theorem assemble_repeated (registry : Registry) (identity : Identity) (native : NativePass)
    (elapsed : Nat) (before middle after : List ManagedPass) (p : ManagedPass) :
    (assemble registry identity (before ++ p :: (middle ++ p :: after)) native elapsed).classes =
      (assemble registry identity (before ++ p :: (middle ++ after)) native elapsed).classes := by
  have hsame : SameRecords (before ++ p :: (middle ++ after))
      (before ++ p :: (middle ++ p :: after)) := by
    intro c
    simp only [List.mem_append, List.mem_cons]
    grind
  have hfirst (name m : String) :
      firstLocation? ((before ++ p :: (middle ++ p :: after)).flatMap (·.classes)) name m =
        firstLocation? ((before ++ p :: (middle ++ after)).flatMap (·.classes)) name m := by
    simp only [firstLocation?, List.flatMap_append, List.flatMap_cons, List.findSome?_append]
    generalize p.classes.findSome? _ = own
    cases own with
    | none => simp
    | some l => simp
  refine hsame.classes_eq ?_
  intro name m r q hr hq
  have hr := ClassTable.firstLocation?_eq_of_records hr
  rw [hfirst, ClassTable.firstLocation?_eq_of_records hq, Option.some.injEq] at hr
  exact hr.symm

/-- Assembly is a union of passes. Neither their order, nor the order of the classes in them, nor how
often a pass occurs has an influence on it, except that a method stays where its first record says that
it is. There is no exception if all its records say the same, as they do if only records of one class
were merged before. What has been reported is reported again as it is. -/
theorem assemble_isUnion (registry : Registry) (identity : Identity) (passes : List ManagedPass)
    (native : NativePass) (elapsed : Nat) :
    (assemble registry identity passes native elapsed).Unites passes native ∧
      (∀ passes', SameRecords passes passes' →
        (assemble registry identity passes' native elapsed).classes.map ClassRecord.readdressed =
          (assemble registry identity passes native elapsed).classes.map ClassRecord.readdressed ∧
        (Settled passes → (assemble registry identity passes' native elapsed).classes =
          (assemble registry identity passes native elapsed).classes)) ∧
      ((∀ p ∈ passes, ∀ c ∈ p.classes, c.Built) → Settled passes) ∧
      (∀ before p middle after, passes = before ++ p :: (middle ++ after) →
        (assemble registry identity (before ++ p :: (middle ++ p :: after)) native elapsed).classes =
          (assemble registry identity passes native elapsed).classes) ∧
      (∀ pass : ManagedPass,
        pass.classes = (assemble registry identity passes native elapsed).classes →
        (assemble registry identity [pass] native elapsed).classes =
          (assemble registry identity passes native elapsed).classes) := by
  refine ⟨assemble_unites, ?_, settled_of_built, ?_, ?_⟩
  · intro passes' h
    exact ⟨h.map_readdressed_eq, h.classes_eq_of_settled⟩
  · rintro before p middle after rfl
    exact assemble_repeated ..
  · intro pass hp
    rw [assemble_reported hp, hp]

/-- One pass takes a method for external, and another has found its code. -/
def passesThatDiffer : List ManagedPass :=
  [{ classes := [({ name := "Bridge" } : ClassRecord).addToMethod "run" true []] },
   { classes := [({ name := "Bridge" } : ClassRecord).addToMethod "run" false [.nameMatch "aes"]] }]

theorem assemble_isUnion_passesThatDiffer :
    (assemble ∅ ⟨"app.apk", none⟩ passesThatDiffer {} 0).Unites passesThatDiffer {} ∧
      (assemble ∅ ⟨"app.apk", none⟩ passesThatDiffer.reverse {} 0).classes =
        (assemble ∅ ⟨"app.apk", none⟩ passesThatDiffer {} 0).classes := by
  have hbuilt : ∀ p ∈ passesThatDiffer, ∀ c ∈ p.classes, c.Built := by
    simp only [passesThatDiffer, List.forall_mem_cons, List.not_mem_nil, false_implies,
      implies_true, and_true]
    exact ⟨.addToMethod (.new _) _ _ _, .addToMethod (.new _) _ _ _⟩
  have hsame : SameRecords passesThatDiffer passesThatDiffer.reverse := by
    intro c
    simp only [List.mem_reverse]
  obtain ⟨hunites, hsettled, hsettles, _⟩ :=
    assemble_isUnion ∅ ⟨"app.apk", none⟩ passesThatDiffer {} 0
  exact ⟨hunites, (hsettled _ hsame).2 (hsettles hbuilt)⟩

/-- A class into which a class of another name was merged. -/
def mergedRecord : ClassRecord :=
  ClassRecord.merge { name := "Net" }
    (({ name := "Bridge" } : ClassRecord).addToMethod "run" false [.nameMatch "aes"])

def plainRecord : ClassRecord :=
  ({ name := "Net" } : ClassRecord).addToMethod "run" false [.nameMatch "aes"]

theorem assemble_mergedRecord_order :
    (assemble ∅ ⟨"app.apk", none⟩ [{ classes := [mergedRecord] }, { classes := [plainRecord] }] {}
        0).classes ≠
      (assemble ∅ ⟨"app.apk", none⟩ [{ classes := [plainRecord] }, { classes := [mergedRecord] }] {}
        0).classes := by
  decide +kernel

end Report

end CryptoSurvey
