import CryptoSurvey.Package.Basic
import CryptoSurvey.Proofs.Ordered
import CryptoSurvey.Report.Record

namespace CryptoSurvey

namespace MethodRecord

def location (r : MethodRecord) : Location :=
  ⟨r.className, r.name⟩

theorem hasEvidence_iff {r : MethodRecord} : r.hasEvidence = true ↔ ∃ e, e ∈ r.evidence := by
  rw [← OrderedSet.isEmpty_eq_false_iff, hasEvidence, Bool.not_eq_true']

theorem foldl_add (es : List Evidence) (r : MethodRecord) :
    es.foldl add r = { r with evidence := r.evidence.insertMany es } := by
  induction es generalizing r with
  | nil => rfl
  | cons e es ih => exact ih (r.add e)

end MethodRecord

namespace ClassRecord

def MethodShows (c : ClassRecord) (m : String) (e : Evidence) : Prop :=
  ∃ r, c.methods.get? m = some r ∧ e ∈ r.evidence

/-- Every method is filed under its own name and knows its class. -/
def WellFiled (c : ClassRecord) : Prop :=
  ∀ m r, c.methods.get? m = some r → r.name = m ∧ r.className = c.name

def Pruned (c : ClassRecord) : Prop :=
  ∀ m r, c.methods.get? m = some r → r.hasEvidence = true

/-- No record of the method says that its body is in the package. -/
def External (c : ClassRecord) (m : String) : Prop :=
  ∀ r, c.methods.get? m = some r → r.external = true

def location? (c : ClassRecord) (m : String) : Option Location :=
  (c.methods.get? m).map MethodRecord.location

def Unlabelled (c : ClassRecord) : Prop :=
  c.primary? = none ∧ ∀ n r, c.methods.get? n = some r → r.primary? = none

theorem hasEvidence_iff {c : ClassRecord} :
    c.hasEvidence = true ↔ (∃ e, e ∈ c.evidence) ∨ ∃ m e, c.MethodShows m e := by
  rw [hasEvidence, Bool.or_eq_true, Bool.not_eq_true', OrderedSet.isEmpty_eq_false_iff,
    List.any_eq_true]
  refine or_congr_right ⟨?_, ?_⟩
  · rintro ⟨r, hr, he⟩
    obtain ⟨m, hm⟩ := OrderedMap.mem_values_iff.1 hr
    obtain ⟨e, he⟩ := MethodRecord.hasEvidence_iff.1 he
    exact ⟨m, e, r, hm, he⟩
  · rintro ⟨m, e, r, hm, he⟩
    exact ⟨r, OrderedMap.mem_values_iff.2 ⟨m, hm⟩, MethodRecord.hasEvidence_iff.2 ⟨e, he⟩⟩

theorem mem_allEvidence {c : ClassRecord} {e : Evidence} :
    e ∈ c.allEvidence ↔
      e ∈ c.evidence ∨ ∃ m r, c.methods.get? m = some r ∧ e ∈ r.evidence := by
  rw [allEvidence, List.mem_append, List.mem_flatMap]
  refine or_congr_right ⟨?_, ?_⟩
  · rintro ⟨r, hr, he⟩
    obtain ⟨m, hm⟩ := OrderedMap.mem_values_iff.1 hr
    exact ⟨m, r, hm, he⟩
  · rintro ⟨m, r, hm, he⟩
    exact ⟨r, OrderedMap.mem_values_iff.2 ⟨m, hm⟩, he⟩

theorem hasEvidence_iff_allEvidence {c : ClassRecord} :
    c.hasEvidence = true ↔ c.allEvidence ≠ [] := by
  rw [hasEvidence_iff]
  constructor
  · rintro (⟨e, he⟩ | ⟨m, e, r, hm, he⟩)
    · exact List.ne_nil_of_mem (mem_allEvidence.2 (.inl he))
    · exact List.ne_nil_of_mem (mem_allEvidence.2 (.inr ⟨m, r, hm, he⟩))
  · intro h
    obtain ⟨e, he⟩ := List.exists_mem_of_ne_nil _ h
    rcases mem_allEvidence.1 he with he | ⟨m, he⟩
    · exact .inl ⟨e, he⟩
    · exact .inr ⟨m, e, he⟩

theorem foldl_add (es : List Evidence) (c : ClassRecord) :
    es.foldl add c = { c with evidence := c.evidence.insertMany es } := by
  induction es generalizing c with
  | nil => rfl
  | cons e es ih => exact ih (c.add e)

theorem get?_alterMethod_self (c : ClassRecord) (m : String) (external : Bool)
    (f : MethodRecord → MethodRecord) :
    (c.alterMethod m external f).methods.get? m = some (f (c.methodOrNew m external)) :=
  OrderedMap.get?_alter_self _ _ _

theorem get?_alterMethod_of_ne {m n : String} (h : n ≠ m) (c : ClassRecord) (external : Bool)
    (f : MethodRecord → MethodRecord) :
    (c.alterMethod m external f).methods.get? n = c.methods.get? n :=
  OrderedMap.get?_alter_of_ne h _ _

theorem mem_methodOrNew {c : ClassRecord} {m : String} {external : Bool} {e : Evidence} :
    e ∈ (c.methodOrNew m external).evidence ↔ c.MethodShows m e := by
  rw [methodOrNew, MethodShows]
  cases c.methods.get? m with
  | none => simp
  | some r => simp

theorem methodShows_addToMethod {c : ClassRecord} {m n : String} {external : Bool}
    {es : List Evidence} {e : Evidence} :
    (c.addToMethod m external es).MethodShows n e ↔ c.MethodShows n e ∨ n = m ∧ e ∈ es := by
  by_cases h : n = m
  · subst h
    rw [MethodShows, addToMethod, get?_alterMethod_self]
    simp only [Option.some.injEq, exists_eq_left', MethodRecord.foldl_add,
      OrderedSet.mem_insertMany, mem_methodOrNew, true_and]
    exact or_comm
  · rw [MethodShows, addToMethod, get?_alterMethod_of_ne h, ← MethodShows]
    simp [h]

theorem get?_merge (c d : ClassRecord) (m : String) :
    (c.merge d).methods.get? m =
      (c.methods.get? m).merge MethodRecord.merge (d.methods.get? m) := by
  refine OrderedMap.get?_foldl_alter ?_ c.methods d.methods m
  intro e o
  cases o <;> rfl

theorem mem_evidence_merge {c d : ClassRecord} {e : Evidence} :
    e ∈ (c.merge d).evidence ↔ e ∈ c.evidence ∨ e ∈ d.evidence :=
  OrderedSet.mem_union

theorem methodShows_merge {c d : ClassRecord} {m : String} {e : Evidence} :
    (c.merge d).MethodShows m e ↔ c.MethodShows m e ∨ d.MethodShows m e := by
  simp only [MethodShows, get?_merge]
  cases c.methods.get? m with
  | none => simp
  | some r =>
    cases d.methods.get? m with
    | none => simp
    | some q => simp [MethodRecord.merge]

theorem external_merge {c d : ClassRecord} {m : String} :
    (c.merge d).External m ↔ c.External m ∧ d.External m := by
  simp only [External, get?_merge]
  cases c.methods.get? m with
  | none => simp
  | some r =>
    cases d.methods.get? m with
    | none => simp
    | some q => simp [MethodRecord.merge]

theorem location?_merge (c d : ClassRecord) (m : String) :
    (c.merge d).location? m = (c.location? m).or (d.location? m) := by
  rw [location?, get?_merge, location?, location?]
  cases c.methods.get? m with
  | none => simp
  | some r =>
    cases d.methods.get? m with
    | none => simp
    | some q => simp [MethodRecord.merge, MethodRecord.location]

theorem of_get?_merge {p : MethodRecord → Prop} (hp : ∀ r q, p r → p (r.merge q))
    {c d : ClassRecord} {m : String} (hc : ∀ r, c.methods.get? m = some r → p r)
    (hd : ∀ r, d.methods.get? m = some r → p r) {r : MethodRecord}
    (h : (c.merge d).methods.get? m = some r) : p r := by
  rw [get?_merge] at h
  cases hcm : c.methods.get? m with
  | none =>
    rw [hcm, Option.merge_none_left] at h
    exact hd r h
  | some q =>
    cases hdm : d.methods.get? m with
    | none =>
      rw [hcm, hdm, Option.merge_none_right] at h
      exact hc r (hcm.trans h)
    | some s =>
      rw [hcm, hdm, Option.merge_some_some, Option.some.injEq] at h
      exact h ▸ hp q s (hc q hcm)

theorem WellFiled.merge {c d : ClassRecord} (hc : c.WellFiled) (hd : d.WellFiled)
    (hn : d.name = c.name) : (c.merge d).WellFiled := by
  intro m r h
  refine of_get?_merge (p := fun r => r.name = m ∧ r.className = c.name) ?_ (hc m) ?_ h
  · intro r q hr
    exact hr
  · intro r hr
    rw [← hn]
    exact hd m r hr

theorem Pruned.merge {c d : ClassRecord} (hc : c.Pruned) (hd : d.Pruned) : (c.merge d).Pruned := by
  intro m r h
  refine of_get?_merge (p := fun r => r.hasEvidence = true) ?_ (hc m) (hd m) h
  intro r q hr
  rw [MethodRecord.hasEvidence_iff] at hr ⊢
  obtain ⟨e, he⟩ := hr
  exact ⟨e, OrderedSet.mem_union.2 (.inl he)⟩

theorem Pruned.addToMethod {c : ClassRecord} (hc : c.Pruned) (m : String) (external : Bool)
    {es : List Evidence} (hes : es ≠ []) : (c.addToMethod m external es).Pruned := by
  intro n r h
  by_cases hn : n = m
  · subst hn
    rw [ClassRecord.addToMethod, get?_alterMethod_self, Option.some.injEq,
      MethodRecord.foldl_add] at h
    subst h
    obtain ⟨e, he⟩ := List.exists_mem_of_ne_nil es hes
    exact MethodRecord.hasEvidence_iff.2 ⟨e, OrderedSet.mem_insertMany.2 (.inl he)⟩
  · rw [ClassRecord.addToMethod, get?_alterMethod_of_ne hn] at h
    exact hc n r h

theorem WellFiled.alterMethod {c : ClassRecord} (hc : c.WellFiled) (m : String) (external : Bool)
    {f : MethodRecord → MethodRecord}
    (hf : ∀ r, (f r).name = r.name ∧ (f r).className = r.className) :
    (c.alterMethod m external f).WellFiled := by
  intro n r h
  by_cases hn : n = m
  · subst hn
    rw [get?_alterMethod_self, Option.some.injEq] at h
    subst h
    rw [(hf _).1, (hf _).2, methodOrNew]
    cases hg : c.methods.get? n with
    | none => exact ⟨rfl, rfl⟩
    | some q => exact hc n q hg
  · rw [get?_alterMethod_of_ne hn] at h
    exact hc n r h

theorem WellFiled.addToMethod {c : ClassRecord} (hc : c.WellFiled) (m : String) (external : Bool)
    (es : List Evidence) : (c.addToMethod m external es).WellFiled := by
  apply hc.alterMethod
  intro r
  rw [MethodRecord.foldl_add]
  exact ⟨rfl, rfl⟩

theorem Unlabelled.addToMethod {c : ClassRecord} (h : c.Unlabelled) (m : String) (external : Bool)
    (es : List Evidence) : (c.addToMethod m external es).Unlabelled := by
  refine ⟨h.1, ?_⟩
  intro n r hr
  by_cases hn : n = m
  · subst hn
    rw [ClassRecord.addToMethod, get?_alterMethod_self, MethodRecord.foldl_add,
      Option.some.injEq] at hr
    subst hr
    rw [methodOrNew]
    cases hg : c.methods.get? n with
    | none => rfl
    | some q => exact h.2 n q hg
  · rw [ClassRecord.addToMethod, get?_alterMethod_of_ne hn] at hr
    exact h.2 n r hr

theorem Unlabelled.merge {c d : ClassRecord} (hc : c.Unlabelled) (hd : d.Unlabelled) :
    (c.merge d).Unlabelled := by
  refine ⟨hc.1, ?_⟩
  intro n r hr
  exact of_get?_merge (p := fun r => r.primary? = none) (fun _ _ hr => hr) (hc.2 n) (hd.2 n) hr

theorem get?_prune {c : ClassRecord} {m : String} {r : MethodRecord} :
    c.prune.methods.get? m = some r ↔ c.methods.get? m = some r ∧ r.hasEvidence = true := by
  simp only [prune, OrderedMap.get?_filterMap, Option.bind_eq_some_iff]
  constructor
  · rintro ⟨q, hq, h⟩
    split at h
    · cases h
      exact ⟨hq, ‹_›⟩
    · cases h
  · rintro ⟨hr, he⟩
    exact ⟨r, hr, if_pos he⟩

theorem methodShows_prune {c : ClassRecord} {m : String} {e : Evidence} :
    c.prune.MethodShows m e ↔ c.MethodShows m e := by
  constructor
  · rintro ⟨r, hr, he⟩
    exact ⟨r, (get?_prune.1 hr).1, he⟩
  · rintro ⟨r, hr, he⟩
    exact ⟨r, get?_prune.2 ⟨hr, MethodRecord.hasEvidence_iff.2 ⟨e, he⟩⟩, he⟩

theorem hasEvidence_prune (c : ClassRecord) : c.prune.hasEvidence = c.hasEvidence := by
  rw [Bool.eq_iff_iff, hasEvidence_iff, hasEvidence_iff]
  simp only [methodShows_prune]
  rfl

theorem Pruned.prune_eq {c : ClassRecord} (h : c.Pruned) : c.prune = c := by
  have hm : c.prune.methods = c.methods := by
    apply OrderedMap.ext_get?
    intro m
    apply Option.ext
    intro r
    rw [get?_prune]
    exact and_iff_left_of_imp (h m r)
  obtain ⟨name, evidence, methods, primary?⟩ := c
  exact congrArg (ClassRecord.mk name evidence · primary?) hm

theorem WellFiled.prune {c : ClassRecord} (hc : c.WellFiled) : c.prune.WellFiled := by
  intro m r h
  exact hc m r (get?_prune.1 h).1

end ClassRecord

theorem foldl_iff_or {α β : Type} {P : β → Prop} {Q : α → Prop} {f : β → α → β}
    (h : ∀ b a, P (f b a) ↔ P b ∨ Q a) (l : List α) (b : β) :
    P (l.foldl f b) ↔ P b ∨ ∃ a ∈ l, Q a := by
  induction l generalizing b with
  | nil => simp
  | cons a l ih => simp [ih, h, or_assoc]

theorem foldl_iff_and {α β : Type} {P : β → Prop} {Q : α → Prop} {f : β → α → β}
    (h : ∀ b a, P (f b a) ↔ P b ∧ Q a) (l : List α) (b : β) :
    P (l.foldl f b) ↔ P b ∧ ∀ a ∈ l, Q a := by
  induction l generalizing b with
  | nil => simp
  | cons a l ih => rw [List.foldl_cons, ih, h, List.forall_mem_cons, and_assoc]

namespace ClassTable

def ClassShows (t : ClassTable) (name : String) (e : Evidence) : Prop :=
  ∃ c, t.get? name = some c ∧ e ∈ c.evidence

def Records (t : ClassTable) (name m : String) (r : MethodRecord) : Prop :=
  ∃ c, t.get? name = some c ∧ c.methods.get? m = some r

def MethodShows (t : ClassTable) (name m : String) (e : Evidence) : Prop :=
  ∃ c, t.get? name = some c ∧ c.MethodShows m e

/-- No record of the method says that its body is in the package. -/
def External (t : ClassTable) (name m : String) : Prop :=
  ∀ r, t.Records name m r → r.external = true

def location? (t : ClassTable) (name m : String) : Option Location :=
  (t.get? name).bind (·.location? m)

/-- Every class is filed under its own name. -/
def Named (t : ClassTable) : Prop :=
  ∀ name c, t.get? name = some c → c.name = name

/-- Every class is filed under its own name, and so are the methods of every class. -/
def WellFiled (t : ClassTable) : Prop :=
  ∀ name c, t.get? name = some c → c.name = name ∧ c.WellFiled

theorem get?_take_self (t : ClassTable) (c : ClassRecord) :
    (t.take c).get? c.name = (t.get? c.name).merge ClassRecord.merge (some c) := by
  rw [take, OrderedMap.get?_alter_self]
  cases t.get? c.name <;> rfl

theorem get?_take_of_ne {c : ClassRecord} {name : String} (h : c.name ≠ name) (t : ClassTable) :
    (t.take c).get? name = t.get? name :=
  OrderedMap.get?_alter_of_ne h.symm _ _

theorem classShows_take {t : ClassTable} {c : ClassRecord} {name : String} {e : Evidence} :
    (t.take c).ClassShows name e ↔ t.ClassShows name e ∨ c.name = name ∧ e ∈ c.evidence := by
  by_cases h : c.name = name
  · subst h
    rw [ClassShows, ClassShows, get?_take_self]
    cases t.get? c.name with
    | none => simp
    | some d => simp [ClassRecord.mem_evidence_merge]
  · rw [ClassShows, get?_take_of_ne h, ← ClassShows]
    simp [h]

theorem methodShows_take {t : ClassTable} {c : ClassRecord} {name m : String} {e : Evidence} :
    (t.take c).MethodShows name m e ↔ t.MethodShows name m e ∨ c.name = name ∧ c.MethodShows m e := by
  by_cases h : c.name = name
  · subst h
    rw [MethodShows, MethodShows, get?_take_self]
    cases t.get? c.name with
    | none => simp
    | some d => simp [ClassRecord.methodShows_merge]
  · rw [MethodShows, get?_take_of_ne h, ← MethodShows]
    simp [h]

theorem external_take {t : ClassTable} {c : ClassRecord} {name m : String} :
    (t.take c).External name m ↔ t.External name m ∧ (c.name = name → c.External m) := by
  by_cases h : c.name = name
  · subst h
    simp only [External, Records, get?_take_self]
    cases t.get? c.name with
    | none => simp [ClassRecord.External]
    | some d => simpa [ClassRecord.External] using @ClassRecord.external_merge d c m
  · simp [External, Records, get?_take_of_ne h, h]

theorem location?_take (t : ClassTable) (c : ClassRecord) (name m : String) :
    (t.take c).location? name m =
      (t.location? name m).or (if c.name = name then c.location? m else none) := by
  by_cases h : c.name = name
  · subst h
    rw [location?, location?, get?_take_self, if_pos rfl]
    cases t.get? c.name with
    | none => simp
    | some d => simp [ClassRecord.location?_merge]
  · rw [location?, get?_take_of_ne h, if_neg h, Option.or_none, location?]

theorem location?_eq_of_records {t : ClassTable} {name m : String} {r : MethodRecord}
    (h : t.Records name m r) : t.location? name m = some r.location := by
  obtain ⟨c, hc, hr⟩ := h
  rw [location?, hc, Option.bind_some, ClassRecord.location?, hr, Option.map_some]

theorem Named.take {t : ClassTable} (ht : t.Named) (c : ClassRecord) : (t.take c).Named := by
  intro name d h
  by_cases hn : c.name = name
  · subst hn
    rw [get?_take_self] at h
    cases hg : t.get? c.name with
    | none =>
      rw [hg, Option.merge_none_left, Option.some.injEq] at h
      exact h ▸ rfl
    | some b =>
      rw [hg, Option.merge_some_some, Option.some.injEq] at h
      exact h ▸ ht c.name b hg
  · rw [get?_take_of_ne hn] at h
    exact ht name d h

theorem WellFiled.named {t : ClassTable} (ht : t.WellFiled) : t.Named :=
  fun name c h => (ht name c h).1

theorem WellFiled.take {t : ClassTable} {c : ClassRecord} (ht : t.WellFiled) (hc : c.WellFiled) :
    (t.take c).WellFiled := by
  intro name d h
  refine ⟨ht.named.take c name d h, ?_⟩
  by_cases hn : c.name = name
  · subst hn
    rw [get?_take_self] at h
    cases hg : t.get? c.name with
    | none =>
      rw [hg, Option.merge_none_left, Option.some.injEq] at h
      exact h ▸ hc
    | some b =>
      obtain ⟨hb, hw⟩ := ht c.name b hg
      rw [hg, Option.merge_some_some, Option.some.injEq] at h
      exact h ▸ hw.merge hc hb.symm
  · rw [get?_take_of_ne hn] at h
    exact (ht name d h).2

theorem Named.mem_values {t : ClassTable} (ht : t.Named) {name : String} {c : ClassRecord} :
    c ∈ t.values ∧ c.name = name ↔ t.get? name = some c := by
  rw [OrderedMap.mem_values_iff]
  constructor
  · rintro ⟨⟨k, hk⟩, hn⟩
    rw [← hn, ht k c hk]
    exact hk
  · intro h
    exact ⟨⟨name, h⟩, ht name c h⟩

theorem Named.pairwise_values {t : ClassTable} (ht : t.Named) :
    t.values.Pairwise fun c d => c.name < d.name :=
  OrderedMap.pairwise_values ht

end ClassTable

def ShownInClass (cs : List ClassRecord) (name : String) (e : Evidence) : Prop :=
  ∃ c ∈ cs, c.name = name ∧ e ∈ c.evidence

def RecordedMethod (cs : List ClassRecord) (name m : String) (r : MethodRecord) : Prop :=
  ∃ c ∈ cs, c.name = name ∧ c.methods.get? m = some r

def ShownInMethod (cs : List ClassRecord) (name m : String) (e : Evidence) : Prop :=
  ∃ r, RecordedMethod cs name m r ∧ e ∈ r.evidence

theorem shownInMethod_iff {cs : List ClassRecord} {name m : String} {e : Evidence} :
    ShownInMethod cs name m e ↔ ∃ c ∈ cs, c.name = name ∧ c.MethodShows m e := by
  constructor
  · rintro ⟨r, ⟨c, hc, hn, hr⟩, he⟩
    exact ⟨c, hc, hn, r, hr, he⟩
  · rintro ⟨c, hc, hn, r, hr, he⟩
    exact ⟨r, ⟨c, hc, hn, hr⟩, he⟩

namespace ClassTable.Named

variable {t : ClassTable} (ht : t.Named) {name m : String}
include ht

theorem shownInClass_values {e : Evidence} :
    ShownInClass t.values name e ↔ t.ClassShows name e := by
  simp only [ShownInClass, ClassShows, ← and_assoc, ht.mem_values]

theorem recordedMethod_values {r : MethodRecord} :
    RecordedMethod t.values name m r ↔ t.Records name m r := by
  simp only [RecordedMethod, Records, ← and_assoc, ht.mem_values]

theorem shownInMethod_values {e : Evidence} :
    ShownInMethod t.values name m e ↔ t.MethodShows name m e := by
  simp only [shownInMethod_iff, MethodShows, ← and_assoc, ht.mem_values]

end ClassTable.Named

end CryptoSurvey
