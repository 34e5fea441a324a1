import CryptoSurvey.Proofs.JsonReads
import CryptoSurvey.Report.Row

namespace CryptoSurvey.Json

variable {α β σ : Type}

namespace Shape

variable {shape : Shape σ α}

theorem gathers_cons {g g' g'' : σ} {k : String} {v : Json} {ms : List (String × Json)}
    {field : Field σ} (hfind : shape.fields.find? (·.name == k) = some field)
    (hset : field.isSet g = false) (hread : Reads (field.read g) v g')
    (hms : Gathers shape.member g' ms g'') : Gathers shape.member g ((k, v) :: ms) g'' := by
  refine .cons ?_ hms
  intro gap before t rest hgap hbefore ht hrest
  unfold member
  simp only [hfind, hset, Bool.false_eq_true, if_false]
  rw [colon_append hgap]
  exact hread before t rest hbefore ht hrest

theorem reads_object {g : σ} {a : α} {ms : List (String × Json)}
    (h : Gathers shape.member shape.start ms g) (hfinish : shape.finish g = .ok a) :
    Reads shape.reader (.object ms) a := by
  intro before t rest hbefore ht _
  cases ht with
  | @object t _ ht =>
    obtain ⟨tail, hend, hmembers⟩ := h.membersFrom_object ht rest
    unfold reader
    rw [skipSpace_append hbefore, List.cons_append, skipSpace_cons rfl, List.append_assoc]
    change (membersFrom shape.member ((t ++ '\x7d' :: rest).length + 1) true shape.start
      (t ++ '\x7d' :: rest) >>= _) = _
    rw [hmembers]
    change (shape.finish g >>= _) = _
    rw [hfinish]
    change (objectEnd tail >>= _) = _
    rw [hend]
    rfl

/-- The members of an object are taken into the fields of a record; some may be missing. -/
inductive Fills (shape : Shape σ α) : σ → List (String × Option Json) → σ → Prop
  | nil (g : σ) : Fills shape g [] g
  | absent {g g' : σ} {k : String} {ms : List (String × Option Json)}
      (hms : Fills shape g ms g') : Fills shape g ((k, none) :: ms) g'
  | present {g g' g'' : σ} {k : String} {v : Json} {ms : List (String × Option Json)}
      {field : Field σ} (hfind : shape.fields.find? (·.name == k) = some field)
      (hset : field.isSet g = false) (hread : Reads (field.read g) v g')
      (hms : Fills shape g' ms g'') : Fills shape g ((k, some v) :: ms) g''

theorem Fills.gathers {g g' : σ} {ms : List (String × Option Json)} (h : Fills shape g ms g') :
    Gathers shape.member g (ms.filterMap fun m => m.2.map (m.1, ·)) g' := by
  induction h with
  | nil g => exact .nil g
  | absent _ ih => exact ih
  | present hfind hset hread _ ih => exact gathers_cons hfind hset hread ih

theorem Fills.reads {g : σ} {a : α} {ms : List (String × Option Json)}
    (h : Fills shape shape.start ms g) (hfinish : shape.finish g = .ok a) :
    Reads shape.reader (.ofMembers ms) a :=
  reads_object h.gathers hfinish

end Shape

theorem reads_field {name : String} {optional : Bool} {get : σ → Option β} {set : σ → β → σ}
    {value : Reader β} {v : Json} {b : β} (h : Reads value v b) (g : σ) :
    Reads ((Field.of name optional get set value).read g) v (set g b) := by
  intro before t rest hbefore ht hrest
  change (value _ >>= _) = _
  rw [h before t rest hbefore ht hrest]
  rfl

/-- The members of an object that stands for a record: they come in any order, none comes twice or is
unknown, and none that is needed is missing. -/
structure Presents (known : String → Json → Prop) (needed : String → Prop)
    (ms : List (String × Json)) : Prop where
  distinct : (ms.map Prod.fst).Nodup
  known : ∀ m ∈ ms, known m.1 m.2
  complete : ∀ k, needed k → (ms.map Prod.fst).contains k = true

namespace Shape

variable {shape : Shape σ α} {known : String → Json → Prop}

/-- What has been gathered is determined by the keys that have been read. -/
structure Collects (shape : Shape σ α) (known : String → Json → Prop)
    (draft : (String → Bool) → σ) : Prop where
  start : draft (fun _ => false) = shape.start
  step : ∀ k v, known k v → ∀ seen : String → Bool, seen k = false →
    ∃ field, shape.fields.find? (·.name == k) = some field ∧ field.isSet (draft seen) = false ∧
      Reads (field.read (draft seen)) v (draft fun k' => seen k' || k' == k)

theorem takes_field {k name : String} {optional : Bool} {get : σ → Option β} {set : σ → β → σ}
    {value : Reader β}
    (hfind : shape.fields.find? (·.name == k) = some (.of name optional get set value)) {v : Json}
    {b : β} (hread : Reads value v b) {g g' : σ} (hget : get g = none) (hset : set g b = g') :
    ∃ field, shape.fields.find? (·.name == k) = some field ∧ field.isSet g = false ∧
      Reads (field.read g) v g' := by
  refine ⟨_, hfind, ?_, hset ▸ reads_field hread g⟩
  change (get g).isSome = false
  rw [hget]
  rfl

theorem Collects.gathers {draft : (String → Bool) → σ} (h : Collects shape known draft)
    {ms : List (String × Json)} (hdistinct : (ms.map Prod.fst).Nodup)
    (hknown : ∀ m ∈ ms, known m.1 m.2) (seen : String → Bool)
    (hseen : ∀ m ∈ ms, seen m.1 = false) :
    Gathers shape.member (draft seen) ms
      (draft fun k => seen k || (ms.map Prod.fst).contains k) := by
  induction ms generalizing seen with
  | nil =>
    simp only [List.map_nil, List.contains_nil, Bool.or_false]
    exact .nil _
  | cons m ms ih =>
    rw [List.map_cons, List.nodup_cons] at hdistinct
    rw [List.forall_mem_cons] at hknown hseen
    obtain ⟨field, hfind, hset, hread⟩ := h.step m.1 m.2 hknown.1 seen hseen.1
    have hseen' : ∀ m' ∈ ms, (seen m'.1 || m'.1 == m.1) = false := by
      intro m' hm'
      have hne : m'.1 ≠ m.1 := fun hk => hdistinct.1 (hk ▸ List.mem_map_of_mem hm')
      rw [hseen.2 m' hm', beq_eq_false_iff_ne.2 hne]
      rfl
    have hrest := ih hdistinct.2 hknown.2 (fun k => seen k || k == m.1) hseen'
    simp only [Bool.or_assoc, ← List.contains_cons] at hrest
    exact gathers_cons hfind hset hread hrest

theorem Collects.reads {draft : (String → Bool) → σ} (h : Collects shape known draft)
    {needed : String → Prop} {ms : List (String × Json)} (hms : Presents known needed ms) {a : α}
    (hfinish : ∀ seen : String → Bool, (∀ k, needed k → seen k = true) →
      shape.finish (draft seen) = .ok a) :
    Reads shape.reader (.object ms) a := by
  have hgathers := h.gathers hms.distinct hms.known (fun _ => false) fun _ _ => rfl
  simp only [Bool.false_or] at hgathers
  rw [h.start] at hgathers
  exact reads_object hgathers (hfinish _ hms.complete)

end Shape

end CryptoSurvey.Json
