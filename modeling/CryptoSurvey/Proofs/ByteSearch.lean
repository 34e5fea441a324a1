import CryptoSurvey.Proofs.Positions

namespace CryptoSurvey

namespace Search

variable {α : Type} {needle hay : List α} {i : Nat}

theorem StandsAt.isInfix (h : StandsAt needle hay i) : needle <:+: hay :=
  h.2.isInfix.trans (List.drop_suffix i hay).isInfix

theorem exists_standsAt_iff [BEq α] [LawfulBEq α] :
    (∃ i, StandsAt needle hay i) ↔ needle <:+: hay := by
  constructor
  · rintro ⟨i, hi⟩
    exact hi.isInfix
  · intro h
    obtain ⟨i, hi⟩ := exists_offset?_iff.2 h
    exact ⟨i, (offset?_eq_some_iff.1 hi).1⟩

end Search

namespace Signature

/-- The signature is not empty and stands somewhere in the data. -/
def StandsIn (signature data : List UInt8) : Prop :=
  signature ≠ [] ∧ ∃ i, Search.StandsAt signature data i

/-- What the first provider has under a name, the second has under it too, with more bytes before it
and after it at the most. -/
def Widens (region? wider? : String → Option (List UInt8)) : Prop :=
  ∀ name data, region? name = some data → ∃ before after, wider? name = some (before ++ data ++ after)

variable {data signature : List UInt8} {i : Nat}

theorem offset?_nil (data : List UInt8) : offset? data [] = none :=
  rfl

theorem offset?_eq_some_iff :
    offset? data signature = some i ↔ signature ≠ [] ∧ Search.FirstAt signature data i := by
  by_cases h : signature = []
  · rw [h, offset?_nil]
    simp
  · rw [offset?_of_ne_nil h, Search.offset?_eq_some_iff]
    exact (and_iff_right h).symm

theorem standsIn_iff : StandsIn signature data ↔ signature ≠ [] ∧ signature <:+: data :=
  and_congr_right fun _ => Search.exists_standsAt_iff

theorem containedIn_iff_standsIn : containedIn data signature = true ↔ StandsIn signature data := by
  rw [standsIn_iff]
  by_cases h : signature = []
  · simp [containedIn, h, offset?_nil]
  · rw [containedIn_iff h, and_iff_right h]

theorem containedIn_iff_exists :
    containedIn data signature = true ↔ ∃ i, offset? data signature = some i :=
  Option.isSome_iff_exists

theorem offset?_eq_none_iff :
    offset? data signature = none ↔
      signature = [] ∨ ∀ i, ¬ Search.StandsAt signature data i := by
  rw [← Option.not_isSome_iff_eq_none, ← containedIn, containedIn_iff_standsIn, StandsIn,
    not_and_or, not_not, not_exists]

theorem StandsIn.append (h : StandsIn signature data) (before after : List UInt8) :
    StandsIn signature (before ++ data ++ after) := by
  rw [standsIn_iff] at h ⊢
  exact ⟨h.1, h.2.trans (List.infix_append before data after)⟩

section Regions

variable {regions regions' : List String} {region? wider? : String → Option (List UInt8)}

theorem containedInRegions_iff_standsIn :
    containedInRegions regions region? signature = true ↔
      ∃ name ∈ regions, ∃ data, region? name = some data ∧ StandsIn signature data := by
  simp only [containedInRegions_iff_exists, containedIn_iff_standsIn]

theorem containedInRegions_of_widens (hregions : regions ⊆ regions') (hwider : Widens region? wider?)
    (h : containedInRegions regions region? signature = true) :
    containedInRegions regions' wider? signature = true := by
  rw [containedInRegions_iff_standsIn] at h ⊢
  obtain ⟨name, hname, data, hdata, hstands⟩ := h
  obtain ⟨before, after, hmore⟩ := hwider name data hdata
  exact ⟨name, hregions hname, _, hmore, hstands.append before after⟩

end Regions

/-- The search finds a signature at the least position at which it stands, in data and in the scanned
regions of a provider, and what it finds is not lost when there is more to search. -/
theorem search_exact :
    (∀ data signature i, offset? data signature = some i ↔
      signature ≠ [] ∧ Search.FirstAt signature data i) ∧
    (∀ data signature, offset? data signature = none ↔
      signature = [] ∨ ∀ i, ¬ Search.StandsAt signature data i) ∧
    (∀ data signature, containedIn data signature = true ↔ ∃ i, offset? data signature = some i) ∧
    (∀ regions region? signature, containedInRegions regions region? signature = true ↔
      ∃ name ∈ regions, ∃ data, region? name = some data ∧ StandsIn signature data) ∧
    ∀ regions regions' region? wider? signature, regions ⊆ regions' → Widens region? wider? →
      containedInRegions regions region? signature = true →
        containedInRegions regions' wider? signature = true := by
  refine ⟨fun data signature i => offset?_eq_some_iff, fun data signature => offset?_eq_none_iff,
    fun data signature => containedIn_iff_exists,
    fun regions region? signature => containedInRegions_iff_standsIn, ?_⟩
  intro regions regions' region? wider? signature hregions hwider h
  exact containedInRegions_of_widens hregions hwider h

/-- A provider of one region, in which `[1, 1, 2]` stands behind a partial match of itself. -/
def oneRegion : String → Option (List UInt8)
  | ".data" => some [1, 1, 1, 2]
  | _ => none

/-- That region between more bytes, next to an empty one. -/
def twoRegions : String → Option (List UInt8)
  | ".data" => some [1, 1, 1, 1, 2, 1]
  | ".bss" => some []
  | _ => none

theorem widens_oneRegion_twoRegions : Widens oneRegion twoRegions := by
  intro name data h
  unfold oneRegion at h
  split at h
  · cases h
    exact ⟨[1], [1], rfl⟩
  · cases h

theorem search_exact_twoRegions :
    (offset? [1, 1, 1, 2] [1, 1, 2] = some 1 ∧
      Search.FirstAt [1, 1, 2] ([1, 1, 1, 2] : List UInt8) 1) ∧
    ([".data"] ⊆ [".bss", ".data"] ∧ Widens oneRegion twoRegions ∧
      containedInRegions [".data"] oneRegion [1, 1, 2] = true ∧
      containedInRegions [".bss", ".data"] twoRegions [1, 1, 2] = true) := by
  obtain ⟨hoffset, -, -, -, hmore⟩ := search_exact
  have hfound : offset? [1, 1, 1, 2] [1, 1, 2] = some 1 := by decide
  have hregions : [".data"] ⊆ [".bss", ".data"] := by decide
  have hcontained : containedInRegions [".data"] oneRegion [1, 1, 2] = true := by decide
  exact ⟨⟨hfound, ((hoffset _ _ _).1 hfound).2⟩, hregions, widens_oneRegion_twoRegions, hcontained,
    hmore _ _ _ _ _ hregions widens_oneRegion_twoRegions hcontained⟩

end Signature

end CryptoSurvey
