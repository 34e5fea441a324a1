import CryptoSurvey.Proofs.Attribution
import CryptoSurvey.Proofs.Lowering
import CryptoSurvey.Proofs.Managed

namespace CryptoSurvey

namespace Registry

/-- Both names are registered, the first no later than the second. -/
def NoLater (r : Registry) (a b : String) : Prop :=
  ∃ i j, r.priority? a = some i ∧ r.priority? b = some j ∧ i ≤ j

/-- The name of the first registered algorithm that has the property. -/
def First (r : Registry) (P : Algorithm → Prop) (name : String) : Prop :=
  ∃ a ∈ r.algorithms, a.name = name ∧ P a ∧ ∀ b ∈ r.algorithms, P b → r.NoLater name b.name

variable {r : Registry} {P Q : Algorithm → Prop} {name a b : String}

theorem NoLater.antisymm (hab : r.NoLater a b) (hba : r.NoLater b a) : a = b := by
  obtain ⟨i, j, hi, hj, hij⟩ := hab
  obtain ⟨j', i', hj', hi', hji⟩ := hba
  cases hi.symm.trans hi'
  cases hj.symm.trans hj'
  cases Nat.le_antisymm hij hji
  obtain ⟨x, hx, rfl⟩ := priority?_eq_some_iff.1 hi
  obtain ⟨y, hy, rfl⟩ := priority?_eq_some_iff.1 hj
  cases hx.symm.trans hy
  rfl

theorem Names.noLater_self (h : r.Names a) : r.NoLater a a := by
  obtain ⟨x, hx, rfl⟩ := h
  obtain ⟨i, hi⟩ := List.mem_iff_getElem?.1 hx
  have hpriority : r.priority? x.name = some i := priority?_eq_some_iff.2 ⟨x, hi, rfl⟩
  exact ⟨i, i, hpriority, hpriority, Nat.le_refl i⟩

theorem First.congr (h : ∀ a ∈ r.algorithms, P a ↔ Q a) : r.First P name ↔ r.First Q name := by
  refine exists_congr fun a => and_congr_right fun ha => and_congr_right fun _ => ?_
  rw [h a ha]
  refine and_congr_right fun _ => forall_congr' fun b => forall_congr' fun hb => ?_
  rw [h b hb]

theorem first_of_find? {test : Algorithm → Bool} {a : Algorithm}
    (h : r.algorithms.find? test = some a) : r.First (test · = true) a.name := by
  obtain ⟨htest, i, hi, rfl, hbefore⟩ := List.find?_eq_some_iff_getElem.1 h
  refine ⟨_, List.getElem_mem hi, rfl, htest, ?_⟩
  intro b hb hb'
  obtain ⟨j, hj, rfl⟩ := List.mem_iff_getElem.1 hb
  refine ⟨i, j, priority?_eq_some_iff.2 ⟨_, List.getElem?_eq_getElem hi, rfl⟩,
    priority?_eq_some_iff.2 ⟨_, List.getElem?_eq_getElem hj, rfl⟩, ?_⟩
  -- an earlier algorithm that passes would have been found
  refine Nat.le_of_not_lt fun hlt => ?_
  have hnot := hbefore j hlt
  rw [hb'] at hnot
  cases hnot

theorem name_find?_eq_some_iff {test : Algorithm → Bool} :
    (r.algorithms.find? test).map (·.name) = some name ↔ r.First (test · = true) name := by
  constructor
  · intro h
    obtain ⟨a, ha, rfl⟩ := Option.map_eq_some_iff.1 h
    exact first_of_find? ha
  · rintro ⟨a, ha, rfl, htest, hfirst⟩
    cases hfound : r.algorithms.find? test with
    | none => exact absurd htest (List.find?_eq_none.1 hfound a ha)
    | some b =>
      obtain ⟨c, hc, hname, htest', hfirst'⟩ := first_of_find? hfound
      rw [Option.map_some, ← hname]
      exact congrArg some ((hname ▸ hfirst' a ha htest).antisymm (hfirst c hc htest'))

end Registry

/-- One of the patterns has the property when it is in lower case. -/
def Algorithm.HasPattern (a : Algorithm) (Q : List Char → Prop) : Prop :=
  ∃ p ∈ a.patterns, Q (Text.lowerCase p).toList

theorem Algorithm.HasPattern.imp {a : Algorithm} {Q Q' : List Char → Prop} (h : a.HasPattern Q)
    (himp : ∀ p, Q p → Q' p) : a.HasPattern Q' := by
  obtain ⟨p, hp, hq⟩ := h
  exact ⟨p, hp, himp _ hq⟩

namespace Matcher

/-- The first pattern that passes a test belongs to the first algorithm with such a pattern. -/
theorem find?_flatMap_patterns (test : String → Bool) (algorithms : List Algorithm) :
    ((algorithms.flatMap fun a => a.patterns.map (Text.lowerCase ·, a.name)).find?
        fun p => test p.1).map (·.2) =
      (algorithms.find? fun a => a.patterns.any fun p => test (Text.lowerCase p)).map (·.name) := by
  induction algorithms with
  | nil => rfl
  | cons a rest ih =>
    rw [List.flatMap_cons, List.find?_append, List.find?_map, List.find?_cons]
    cases hfound : a.patterns.find? ((fun p => test p.1) ∘ (Text.lowerCase ·, a.name)) with
    | none =>
      have hany : (a.patterns.any fun p => test (Text.lowerCase p)) = false := by
        rw [List.any_eq_false]
        exact List.find?_eq_none.1 hfound
      rw [hany, Option.map_none, Option.none_or]
      exact ih
    | some p =>
      have htest := List.find?_some hfound
      have hany : (a.patterns.any fun p => test (Text.lowerCase p)) = true :=
        List.any_eq_true.2 ⟨p, List.mem_of_find?_eq_some hfound, htest⟩
      rw [hany]
      rfl

section Test

variable {r : Registry} {exclusions : Exclusions} {Q : List Char → Prop} (test : String → Bool)
variable (h : ∀ a ∈ r.algorithms, ∀ p ∈ a.patterns,
  (test (Text.lowerCase p) = true ↔ Q (Text.lowerCase p).toList))
include h

theorem any_patterns_iff {a : Algorithm} (ha : a ∈ r.algorithms) :
    (a.patterns.any fun p => test (Text.lowerCase p)) = true ↔ a.HasPattern Q := by
  rw [List.any_eq_true]
  exact exists_congr fun p => and_congr_right fun hp => h a ha p hp

theorem find?_patterns_eq_some_iff {name : String} :
    ((ofRegistry r exclusions).patterns.find? fun p => test p.1).map (·.2) = some name ↔
      r.First (·.HasPattern Q) name := by
  rw [ofRegistry, find?_flatMap_patterns, Registry.name_find?_eq_some_iff]
  exact Registry.First.congr fun a ha => any_patterns_iff test h ha

theorem find?_patterns_eq_none_iff :
    ((ofRegistry r exclusions).patterns.find? fun p => test p.1).map (·.2) = none ↔
      ∀ a ∈ r.algorithms, ¬ a.HasPattern Q := by
  rw [ofRegistry, find?_flatMap_patterns, Option.map_eq_none_iff, List.find?_eq_none]
  exact forall_congr' fun a => forall_congr' fun ha => not_congr (any_patterns_iff test h ha)

end Test

section Substring

variable {r : Registry} {exclusions : Exclusions} {lowered name : String}

theorem substring?_eq_some_iff : (ofRegistry r exclusions).substring? lowered = some name ↔
    r.First (·.HasPattern (· <:+: lowered.toList)) name := by
  rw [substring?]
  apply find?_patterns_eq_some_iff fun p => Search.occurs p.toList lowered.toList
  intro a ha p hp
  exact Search.occurs_iff_infix _ _

theorem substring?_eq_none_iff : (ofRegistry r exclusions).substring? lowered = none ↔
    ∀ a ∈ r.algorithms, ¬ a.HasPattern (· <:+: lowered.toList) := by
  rw [substring?]
  apply find?_patterns_eq_none_iff fun p => Search.occurs p.toList lowered.toList
  intro a ha p hp
  exact Search.occurs_iff_infix _ _

theorem exists_substring?_noLater {a : Algorithm} (ha : a ∈ r.algorithms)
    (h : a.HasPattern (· <:+: lowered.toList)) :
    ∃ b, (ofRegistry r exclusions).substring? lowered = some b ∧ r.NoLater b a.name := by
  cases hfound : (ofRegistry r exclusions).substring? lowered with
  | none => exact absurd h (substring?_eq_none_iff.1 hfound a ha)
  | some b =>
    obtain ⟨_, _, _, _, hfirst⟩ := substring?_eq_some_iff.1 hfound
    exact ⟨b, rfl, hfirst a ha h⟩

end Substring

/-- Identifiers belong to the first algorithm with a pattern that stands in them, in any case. One that
spells an ASCII pattern is never missed. -/
theorem algorithm?_identifier_first (r : Registry) (exclusions : Exclusions) :
    (∀ value name, (ofRegistry r exclusions).algorithm? value .identifier = some name ↔
      r.First (·.HasPattern (· <:+: (Text.lowerCase value).toList)) name) ∧
    (∀ value, (ofRegistry r exclusions).algorithm? value .identifier = none ↔
      ∀ a ∈ r.algorithms, ¬ a.HasPattern (· <:+: (Text.lowerCase value).toList)) ∧
    ∀ a ∈ r.algorithms, ∀ p ∈ a.patterns, Text.IsAscii p →
      ∀ x p' y : String, Text.EqUpToCase p' p →
        ∃ b, (ofRegistry r exclusions).algorithm? (x ++ p' ++ y) .identifier = some b ∧
          r.NoLater b a.name := by
  refine ⟨fun value name => substring?_eq_some_iff, fun value => substring?_eq_none_iff, ?_⟩
  intro a ha p hp hascii x p' y heq
  exact exists_substring?_noLater ha ⟨p, hp, Text.infix_lowerCase_append hascii heq x y⟩

theorem algorithm?_identifier_first_twoPatterns :
    (ofRegistry Managed.twoAlgorithms {}).algorithm? ("ΟΔΟΣ" ++ "AeS" ++ "Σm4Sm4") .identifier =
        some "sm4" ∧
      Managed.twoAlgorithms.NoLater "sm4" "aes" := by
  have hsm4 : (ofRegistry Managed.twoAlgorithms {}).algorithm? ("ΟΔΟΣ" ++ "AeS" ++ "Σm4Sm4")
      .identifier = some "sm4" := by
    decide +kernel
  obtain ⟨_, _, hspelt⟩ := algorithm?_identifier_first Managed.twoAlgorithms {}
  obtain ⟨b, hb, hle⟩ := hspelt ⟨"aes", [], []⟩ (by decide) "aes" (by decide) (by decide +kernel)
    "ΟΔΟΣ" "AeS" "Σm4Sm4" (by decide +kernel)
  rw [hsm4, Option.some.injEq] at hb
  subst hb
  exact ⟨hsm4, hle⟩

end Matcher

end CryptoSurvey
