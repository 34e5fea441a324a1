import CryptoSurvey.Registry
import Mathlib.Data.List.Nodup

namespace CryptoSurvey

/-- The texts differ from each other and from those seen before. -/
def Unseen (seen l : List String) : Prop :=
  l.Nodup ∧ ∀ x ∈ l, x ∉ seen

section Unseen

variable {seen l l' : List String} {x : String}

theorem unseen_cons : Unseen seen (x :: l) ↔ x ∉ seen ∧ Unseen (x :: seen) l := by
  rw [Unseen, Unseen, List.nodup_cons, List.forall_mem_cons]
  constructor
  · rintro ⟨⟨hx, hl⟩, hseen, hrest⟩
    refine ⟨hseen, hl, ?_⟩
    intro y hy hmem
    rcases List.mem_cons.1 hmem with rfl | hmem
    · exact hx hy
    · exact hrest y hy hmem
  · rintro ⟨hseen, hl, hrest⟩
    refine ⟨⟨fun hx => hrest x hx List.mem_cons_self, hl⟩, hseen, ?_⟩
    intro y hy hmem
    exact hrest y hy (List.mem_cons_of_mem x hmem)

theorem unseen_append : Unseen seen (l ++ l') ↔ Unseen seen l ∧ Unseen (l ++ seen) l' := by
  induction l generalizing seen with
  | nil =>
    have hnil : Unseen seen [] := ⟨List.nodup_nil, fun x hx => absurd hx List.not_mem_nil⟩
    exact (and_iff_right hnil).symm
  | cons x l ih =>
    have hseen : Unseen (l ++ x :: seen) l' ↔ Unseen (x :: l ++ seen) l' := by
      simp only [Unseen, List.mem_append, List.mem_cons, or_left_comm, or_assoc]
    rw [List.cons_append, unseen_cons, ih, unseen_cons, hseen, and_assoc]

end Unseen

namespace RegistryFault

theorem ofPatterns?_eq_none_iff {algorithm : String} {seen ps : List String} :
    ofPatterns? algorithm seen ps = none ↔
      (∀ p ∈ ps, Text.isBlankText p = false) ∧ Unseen seen ps := by
  induction ps generalizing seen with
  | nil => simp [ofPatterns?, Unseen]
  | cons p rest ih =>
    rw [unseen_cons, List.forall_mem_cons, ofPatterns?]
    by_cases hblank : Text.isBlankText p = true
    · simp [hblank]
    · by_cases hseen : p ∈ seen
      · simp [hseen, hblank]
      · simp [hseen, hblank, ih]

theorem ofConstants?_eq_none_iff {seen : List String} {cs : List Constant} :
    ofConstants? seen cs = none ↔
      (∀ c ∈ cs, c.bytes ≠ []) ∧ Unseen seen (cs.map (·.name)) := by
  induction cs generalizing seen with
  | nil => simp [ofConstants?, Unseen]
  | cons c rest ih =>
    rw [List.map_cons, unseen_cons, List.forall_mem_cons, ofConstants?]
    by_cases hempty : c.bytes = []
    · simp [hempty]
    · by_cases hseen : c.name ∈ seen
      · simp [hseen, hempty]
      · simp [hseen, hempty, ih]

/-- An algorithm without a blank pattern or an empty constant. -/
def Filled (a : Algorithm) : Prop :=
  (∀ p ∈ a.patterns, Text.isBlankText p = false) ∧ ∀ c ∈ a.constants, c.bytes ≠ []

theorem ofAlgorithm?_eq_none_iff {patterns constants : List String} {a : Algorithm} :
    ofAlgorithm? patterns constants a = none ↔
      Filled a ∧ Unseen patterns a.patterns ∧ Unseen constants (a.constants.map (·.name)) := by
  rw [ofAlgorithm?]
  by_cases hblank : Text.isBlankText a.name = true
  · rw [if_pos hblank]
    constructor
    · intro h
      cases h
    · rintro ⟨⟨hpatterns, _⟩, _⟩
      have hname : Text.isBlankText a.name = false := hpatterns a.name List.mem_cons_self
      rw [hblank] at hname
      cases hname
  · rw [if_neg hblank, Option.or_eq_none_iff, ofPatterns?_eq_none_iff, ofConstants?_eq_none_iff,
      Filled]
    exact ⟨fun ⟨⟨h₁, h₂⟩, h₃, h₄⟩ => ⟨⟨h₁, h₃⟩, h₂, h₄⟩, fun ⟨⟨h₁, h₃⟩, h₂, h₄⟩ => ⟨⟨h₁, h₂⟩, h₃, h₄⟩⟩

theorem first?_eq_none_iff {patterns constants : List String} {algorithms : List Algorithm} :
    first? patterns constants algorithms = none ↔
      (∀ a ∈ algorithms, Filled a) ∧ Unseen patterns (algorithms.flatMap (·.patterns)) ∧
        Unseen constants (algorithms.flatMap fun a => a.constants.map (·.name)) := by
  induction algorithms generalizing patterns constants with
  | nil => simp [first?, Unseen]
  | cons a rest ih =>
    rw [first?, Option.or_eq_none_iff, ofAlgorithm?_eq_none_iff, ih, List.forall_mem_cons,
      List.flatMap_cons, List.flatMap_cons, unseen_append, unseen_append]
    tauto

end RegistryFault

namespace Registry

theorem algorithms_of_ofAlgorithms {algorithms : List Algorithm} {r : Registry}
    (h : ofAlgorithms algorithms = .ok r) : r.algorithms = algorithms := by
  rw [ofAlgorithms] at h
  split at h
  · cases h
    rfl
  · cases h

variable (r : Registry)

theorem ofAlgorithms_algorithms : ofAlgorithms r.algorithms = .ok r := by
  rw [ofAlgorithms]
  split
  · rfl
  · rename_i fault hfault
    cases r.faultless.symm.trans hfault

theorem nodup_patterns : (r.algorithms.flatMap (·.patterns)).Nodup :=
  (RegistryFault.first?_eq_none_iff.1 r.faultless).2.1.1

theorem nodup_constants : (r.algorithms.flatMap fun a => a.constants.map (·.name)).Nodup :=
  (RegistryFault.first?_eq_none_iff.1 r.faultless).2.2.1

theorem nodup_names : (r.algorithms.map (·.name)).Nodup := by
  have hdisjoint := (List.nodup_flatMap.1 r.nodup_patterns).2
  rw [List.Nodup, List.pairwise_map]
  refine hdisjoint.imp ?_
  intro a b hab hname
  have hmem : a.name ∈ b.patterns := by
    rw [hname]
    exact List.mem_cons_self
  exact hab List.mem_cons_self hmem

variable {r} {a b : Algorithm} {c : Constant}

theorem eq_of_name_eq (ha : a ∈ r.algorithms) (hb : b ∈ r.algorithms) (h : a.name = b.name) :
    a = b :=
  List.inj_on_of_nodup_map r.nodup_names ha hb h

theorem get?_eq_some_iff {name : String} :
    r.get? name = some a ↔ a ∈ r.algorithms ∧ a.name = name := by
  constructor
  · intro h
    have hname := List.find?_some h
    exact ⟨List.mem_of_find?_eq_some h, beq_iff_eq.1 hname⟩
  · rintro ⟨ha, rfl⟩
    cases hg : r.get? a.name with
    | none =>
      have hnone := List.find?_eq_none.1 hg a ha
      simp at hnone
    | some b =>
      have hname := List.find?_some hg
      rw [eq_of_name_eq (List.mem_of_find?_eq_some hg) ha (beq_iff_eq.1 hname)]

theorem priority?_eq_some_iff {name : String} {i : Nat} :
    r.priority? name = some i ↔ ∃ a, r.algorithms[i]? = some a ∧ a.name = name := by
  rw [priority?, List.findIdx?_eq_some_iff_getElem]
  constructor
  · rintro ⟨hi, hname, _⟩
    exact ⟨_, List.getElem?_eq_getElem hi, beq_iff_eq.1 hname⟩
  · rintro ⟨a, ha, rfl⟩
    obtain ⟨hi, rfl⟩ := List.getElem?_eq_some_iff.1 ha
    refine ⟨hi, beq_self_eq_true _, ?_⟩
    intro j hj hname
    have hnames := List.pairwise_iff_getElem.1 (List.pairwise_map.1 r.nodup_names)
    exact hnames j i (Nat.lt_trans hj hi) hi hj (beq_iff_eq.1 hname)

theorem toList_ne_nil_of_mem_patterns {p : String} (ha : a ∈ r.algorithms) (hp : p ∈ a.patterns) :
    p.toList ≠ [] := by
  intro hnil
  have hblank := ((RegistryFault.first?_eq_none_iff.1 r.faultless).1 a ha).1 p hp
  rw [Text.isBlankText, hnil] at hblank
  cases hblank

theorem bytes_ne_nil (r : Registry) (ha : a ∈ r.algorithms) (hc : c ∈ a.constants) :
    c.bytes ≠ [] :=
  ((RegistryFault.first?_eq_none_iff.1 r.faultless).1 a ha).2 c hc

end Registry

end CryptoSurvey
