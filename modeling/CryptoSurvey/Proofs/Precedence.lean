import CryptoSurvey.Proofs.Assembly
import CryptoSurvey.Proofs.Managed
import Mathlib.Data.Prod.Lex
import Mathlib.Data.String.Basic

namespace CryptoSurvey

namespace Registry

/-- The place of an algorithm in the registry; those that are not registered come after all others. -/
def place (registry : Registry) (name : String) : ℕ :=
  (registry.algorithms.map (·.name)).idxOf name

theorem place_le (registry : Registry) (name : String) :
    registry.place name ≤ registry.algorithms.length := by
  rw [← List.length_map (·.name)]
  exact List.findIdx_le_length

theorem priority?_eq (registry : Registry) (name : String) :
    registry.priority? name =
      Option.guard (fun i => i < registry.algorithms.length) (registry.place name) := by
  rw [priority?, List.findIdx?_eq_guard_findIdx_lt, place, List.idxOf, List.findIdx_map]
  rfl

theorem comparePriority_spec (registry : Registry) (a b : String) :
    (Strength.comparePriority (registry.priority? a) (registry.priority? b) = .lt ↔
      registry.place a < registry.place b) ∧
    (Strength.comparePriority (registry.priority? a) (registry.priority? b) = .eq ↔
      registry.place a = registry.place b) := by
  have ha := registry.place_le a
  have hb := registry.place_le b
  rw [priority?_eq, priority?_eq, Option.guard, Option.guard]
  -- an algorithm that is not registered has the place after the last one
  by_cases hra : registry.place a < registry.algorithms.length
  · by_cases hrb : registry.place b < registry.algorithms.length
    · simp [hra, hrb, Strength.comparePriority, Nat.compare_eq_lt]
    · simp only [hra, hrb, Strength.comparePriority, decide_true, decide_false, if_true,
        Bool.false_eq_true, if_false, reduceCtorEq, true_iff, false_iff]
      omega
  · by_cases hrb : registry.place b < registry.algorithms.length
    · simp only [hra, hrb, Strength.comparePriority, decide_true, decide_false, if_true,
        Bool.false_eq_true, if_false, reduceCtorEq, false_iff]
      omega
    · simp only [hra, hrb, Strength.comparePriority, decide_false, Bool.false_eq_true, if_false,
        reduceCtorEq, true_iff, false_iff]
      omega

end Registry

namespace Evidence

/-- Names are the strongest evidence, then constants, then strings. -/
def grade : Evidence → ℕ
  | .nameMatch _ => 0
  | .constantMatch _ _ => 1
  | .stringReference _ _ => 2

/-- What evidence is ranked by: its kind, the place of its algorithm, the name of its algorithm. -/
def key (registry : Registry) (e : Evidence) : ℕ ×ₗ ℕ ×ₗ String :=
  toLex (e.grade, toLex (registry.place e.algorithm, e.algorithm))

variable {registry : Registry} {e f : Evidence}

theorem rank_eq_grade (e : Evidence) : e.rank = e.grade := by
  cases e <;> rfl

theorem compare_eq_lt_iff :
    (Strength.of registry e).compare (Strength.of registry f) = .lt ↔
      e.key registry < f.key registry := by
  obtain ⟨hlt, heq⟩ := registry.comparePriority_spec e.algorithm f.algorithm
  simp only [Strength.compare, Strength.of]
  rw [Ordering.then_eq_lt, Ordering.then_eq_lt, Nat.compare_eq_lt, Nat.compare_eq_eq, hlt, heq,
    CryptoSurvey.compare_eq_lt_iff, rank_eq_grade, rank_eq_grade, key, key,
    Prod.Lex.toLex_lt_toLex, Prod.Lex.toLex_lt_toLex]

theorem grade_le_of_key_le (h : e.key registry ≤ f.key registry) : e.grade ≤ f.grade :=
  Prod.Lex.monotone_fst _ _ h

theorem algorithm_eq_of_key_eq (h : e.key registry = f.key registry) :
    e.algorithm = f.algorithm :=
  congrArg (fun k => (ofLex (ofLex k).2).2) h

end Evidence

/-- Of all evidence with the property, this has the least key. -/
def Strongest (registry : Registry) (P : Evidence → Prop) (e : Evidence) : Prop :=
  P e ∧ ∀ f, P f → e.key registry ≤ f.key registry

section Strongest

variable {registry : Registry} {P Q : Evidence → Prop} {e f : Evidence} {es es' : List Evidence}

theorem Strongest.algorithm_eq (he : Strongest registry P e) (hf : Strongest registry P f) :
    e.algorithm = f.algorithm :=
  Evidence.algorithm_eq_of_key_eq (le_antisymm (he.2 f hf.1) (hf.2 e he.1))

theorem Strongest.of_imp (he : Strongest registry P e) (hQ : Q e) (h : ∀ f, Q f → P f) :
    Strongest registry Q e :=
  ⟨hQ, fun f hf => he.2 f (h f hf)⟩

theorem strongest?_eq_none_iff : strongest? registry es = none ↔ es = [] := by
  cases es with
  | nil => simp [strongest?]
  | cons e rest =>
    rw [strongest?]
    split
    · simp
    · split <;> simp

theorem strongest?_cons_cases {d : Evidence} (h : strongest? registry (d :: es) = some e) :
    es = [] ∧ e = d ∨
      ∃ f, strongest? registry es = some f ∧
        (e = f ∧ f.key registry < d.key registry ∨ e = d ∧ d.key registry ≤ f.key registry) := by
  rw [strongest?] at h
  split at h
  · rename_i hrest
    cases h
    exact .inl ⟨strongest?_eq_none_iff.1 hrest, rfl⟩
  · rename_i f hf
    refine .inr ⟨f, hf, ?_⟩
    simp only [beq_iff_eq, Evidence.compare_eq_lt_iff] at h
    split at h
    · rename_i hlt
      cases h
      exact .inl ⟨rfl, hlt⟩
    · rename_i hle
      cases h
      exact .inr ⟨rfl, not_lt.1 hle⟩

theorem strongest_of_strongest? (h : strongest? registry es = some e) :
    Strongest registry (· ∈ es) e := by
  induction es generalizing e with
  | nil => cases h
  | cons d rest ih =>
    rcases strongest?_cons_cases h with ⟨rfl, rfl⟩ | ⟨f, hf, ⟨rfl, hlt⟩ | ⟨rfl, hle⟩⟩
    · refine ⟨List.mem_cons_self, ?_⟩
      intro g hg
      rw [List.mem_singleton.1 hg]
    · obtain ⟨hmem, hleast⟩ := ih hf
      exact ⟨List.mem_cons_of_mem d hmem, List.forall_mem_cons.2 ⟨le_of_lt hlt, hleast⟩⟩
    · obtain ⟨_, hleast⟩ := ih hf
      exact ⟨List.mem_cons_self,
        List.forall_mem_cons.2 ⟨le_rfl, fun g hg => hle.trans (hleast g hg)⟩⟩

theorem exists_strongest (h : es ≠ []) : ∃ e, Strongest registry (· ∈ es) e := by
  cases hs : strongest? registry es with
  | none => exact absurd (strongest?_eq_none_iff.1 hs) h
  | some e => exact ⟨e, strongest_of_strongest? hs⟩

theorem primaryAlgorithm?_eq_none_iff : primaryAlgorithm? registry es = none ↔ es = [] := by
  rw [primaryAlgorithm?, Option.map_eq_none_iff, strongest?_eq_none_iff]

theorem primaryAlgorithm?_eq_some_iff {a : String} :
    primaryAlgorithm? registry es = some a ↔
      ∃ e, Strongest registry (· ∈ es) e ∧ e.algorithm = a := by
  rw [primaryAlgorithm?, Option.map_eq_some_iff]
  constructor
  · rintro ⟨e, he, ha⟩
    exact ⟨e, strongest_of_strongest? he, ha⟩
  · rintro ⟨e, he, rfl⟩
    cases hs : strongest? registry es with
    | none =>
      rw [strongest?_eq_none_iff.1 hs] at he
      exact absurd he.1 List.not_mem_nil
    | some f => exact ⟨f, rfl, (strongest_of_strongest? hs).algorithm_eq he⟩

theorem primaryAlgorithm?_congr (h : ∀ e, e ∈ es' ↔ e ∈ es) :
    primaryAlgorithm? registry es' = primaryAlgorithm? registry es := by
  apply Option.ext
  intro a
  simp only [primaryAlgorithm?_eq_some_iff, h]

end Strongest

namespace ClassRecord

/-- The strongest evidence of the class itself or of one of its methods. -/
def Best (registry : Registry) (c : ClassRecord) (e : Evidence) : Prop :=
  Strongest registry (· ∈ c.evidence) e ∨
    ∃ m r, c.methods.get? m = some r ∧ Strongest registry (· ∈ r.evidence) e

/-- Every method is labelled by the strongest of its own evidence, and the class by the strongest of
what is best in it and in its methods. So no method has evidence of a stronger kind. -/
structure Labelled (registry : Registry) (c : ClassRecord) : Prop where
  method : ∀ m r, c.methods.get? m = some r →
    ∃ e, Strongest registry (· ∈ r.evidence) e ∧ r.primary? = some e.algorithm
  whole : ∃ e, Strongest registry (c.Best registry) e ∧ c.primary? = some e.algorithm ∧
    ∀ m r, c.methods.get? m = some r → ∀ f ∈ r.evidence, e.grade ≤ f.grade

variable {registry : Registry} {c : ClassRecord} {e : Evidence}

theorem Best.mem_allEvidence (h : c.Best registry e) : e ∈ c.allEvidence := by
  rw [ClassRecord.mem_allEvidence]
  rcases h with h | ⟨m, r, hm, h⟩
  · exact .inl h.1
  · exact .inr ⟨m, r, hm, h.1⟩

/-- The strongest evidence of all is the best of some part, and the strongest of what is best. -/
theorem strongest_best (h : Strongest registry (· ∈ c.allEvidence) e) :
    Strongest registry (c.Best registry) e := by
  refine h.of_imp ?_ fun f hf => hf.mem_allEvidence
  rcases mem_allEvidence.1 h.1 with he | ⟨m, r, hm, he⟩
  · exact .inl (h.of_imp he fun f hf => mem_allEvidence.2 (.inl hf))
  · exact .inr ⟨m, r, hm, h.of_imp he fun f hf => mem_allEvidence.2 (.inr ⟨m, r, hm, hf⟩)⟩

theorem allEvidence_label (registry : Registry) (c : ClassRecord) :
    (c.label registry).allEvidence = c.allEvidence := by
  rw [← allEvidence_unlabelled, unlabelled_label, allEvidence_unlabelled]

theorem exists_primary {r : MethodRecord} (h : r.hasEvidence = true) :
    ∃ e, Strongest registry (· ∈ r.evidence) e ∧
      primaryAlgorithm? registry r.evidence.toList = some e.algorithm := by
  obtain ⟨d, hd⟩ := MethodRecord.hasEvidence_iff.1 h
  obtain ⟨e, he⟩ := @exists_strongest registry r.evidence.toList (List.ne_nil_of_mem hd)
  exact ⟨e, he, primaryAlgorithm?_eq_some_iff.2 ⟨e, he, rfl⟩⟩

theorem labelled_prune_label (registry : Registry) (h : c.prune.hasEvidence = true) :
    (c.prune.label registry).Labelled registry where
  method := by
    intro m r hr
    rw [get?_label, Option.map_eq_some_iff] at hr
    obtain ⟨q, hq, rfl⟩ := hr
    -- no method without evidence is left
    exact exists_primary (get?_prune.1 hq).2
  whole := by
    obtain ⟨e, he⟩ := @exists_strongest registry c.prune.allEvidence
      (hasEvidence_iff_allEvidence.1 h)
    have hprimary : (c.prune.label registry).primary? = some e.algorithm :=
      primaryAlgorithm?_eq_some_iff.2 ⟨e, he, rfl⟩
    rw [← allEvidence_label registry] at he
    refine ⟨e, strongest_best he, hprimary, ?_⟩
    intro m r hr f hf
    exact Evidence.grade_le_of_key_le (he.2 f (mem_allEvidence.2 (.inr ⟨m, r, hr, hf⟩)))

end ClassRecord

namespace Report

/-- The algorithm of evidence is that of its strongest item, in whatever order and however often the
items are given, and by this rule reports label every class and every method. -/
theorem assemble_labelled (registry : Registry) (identity : Identity) (passes : List ManagedPass)
    (native : NativePass) (elapsed : Nat) :
    (∀ es, primaryAlgorithm? registry es = none ↔ es = []) ∧
      (∀ es a, primaryAlgorithm? registry es = some a ↔
        ∃ e, Strongest registry (· ∈ es) e ∧ e.algorithm = a) ∧
      (∀ es es', (∀ e, e ∈ es' ↔ e ∈ es) →
        primaryAlgorithm? registry es' = primaryAlgorithm? registry es) ∧
      ∀ c ∈ (assemble registry identity passes native elapsed).classes, c.Labelled registry := by
  refine ⟨fun es => primaryAlgorithm?_eq_none_iff, fun es a => primaryAlgorithm?_eq_some_iff,
    fun es es' h => primaryAlgorithm?_congr h, ?_⟩
  intro c hc
  rw [assemble_classes, OrderedMap.mem_values_iff] at hc
  obtain ⟨name, hname⟩ := hc
  obtain ⟨d, _, hev, rfl⟩ := ClassTable.get?_emitted.1 hname
  exact ClassRecord.labelled_prune_label registry (d.hasEvidence_prune.trans hev)

/-- A class without evidence of its own. Its methods set kinds of evidence against places in the registry,
places against names, and a registered algorithm against one that is not. -/
def rivals : ManagedPass where
  classes := [((({ name := "Net" } : ClassRecord).addToMethod "open" false
    [.stringReference "sm4" "SM4", .constantMatch "des" "sbox"]).addToMethod "seal" false
      [.nameMatch "aes", .nameMatch "sm4"]).addToMethod "turn" false
        [.constantMatch "3des" "key", .constantMatch "aes" "key"]]

theorem assemble_labelled_rivals :
    primaryAlgorithm? Managed.twoAlgorithms
        [.stringReference "sm4" "SM4", .constantMatch "des" "sbox"] = some "des" ∧
      primaryAlgorithm? Managed.twoAlgorithms [.nameMatch "aes", .nameMatch "sm4"] = some "sm4" ∧
      primaryAlgorithm? Managed.twoAlgorithms
        [.constantMatch "3des" "key", .constantMatch "aes" "key"] = some "aes" ∧
      ∃ c ∈ (assemble Managed.twoAlgorithms ⟨"app.apk", none⟩ [rivals] {} 0).classes,
        c.primary? = some "sm4" ∧ c.Labelled Managed.twoAlgorithms := by
  obtain ⟨_, hprimary, _, hlabelled⟩ :=
    assemble_labelled Managed.twoAlgorithms ⟨"app.apk", none⟩ [rivals] {} 0
  refine ⟨(hprimary _ _).2 ⟨.constantMatch "des" "sbox", ⟨by simp, ?_⟩, rfl⟩,
    (hprimary _ _).2 ⟨.nameMatch "sm4", ⟨by simp, ?_⟩, rfl⟩,
    (hprimary _ _).2 ⟨.constantMatch "aes" "key", ⟨by simp, ?_⟩, rfl⟩, ?_⟩
  · simp only [List.forall_mem_cons]
    decide
  · simp only [List.forall_mem_cons]
    decide
  · simp only [List.forall_mem_cons]
    decide
  · have hclass : ∃ c ∈ (assemble Managed.twoAlgorithms ⟨"app.apk", none⟩ [rivals] {} 0).classes,
        c.primary? = some "sm4" := by
      decide +kernel
    obtain ⟨c, hc, hp⟩ := hclass
    exact ⟨c, hc, hp, hlabelled c hc⟩

end Report

end CryptoSurvey
