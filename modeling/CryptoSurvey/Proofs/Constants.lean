import CryptoSurvey.Proofs.Ordered
import CryptoSurvey.Proofs.Registry
import CryptoSurvey.Signature

namespace CryptoSurvey

def Registry.NamesConstant (r : Registry) (name : String) : Prop :=
  ∃ a ∈ r.algorithms, ∃ c ∈ a.constants, c.name = name

theorem Registry.mem_constants {r : Registry} {a : Algorithm} {c : Constant} :
    (a, c) ∈ r.constants ↔ a ∈ r.algorithms ∧ c ∈ a.constants := by
  simp only [constants, List.mem_flatMap, List.mem_map, Prod.mk.injEq]
  constructor
  · rintro ⟨b, hb, d, hd, rfl, rfl⟩
    exact ⟨hb, hd⟩
  · rintro ⟨ha, hc⟩
    exact ⟨a, ha, c, hc, rfl, rfl⟩

theorem Registry.nodup_constantNames (r : Registry) : (r.constants.map (·.2.name)).Nodup := by
  have hmap : r.constants.map (·.2.name) = r.algorithms.flatMap fun a => a.constants.map (·.name) := by
    simp [constants, List.map_flatMap, Function.comp_def]
  rw [hmap]
  exact r.nodup_constants

theorem Registry.eq_of_constantName_eq {r : Registry} {a b : Algorithm} {c d : Constant}
    (ha : a ∈ r.algorithms) (hc : c ∈ a.constants) (hb : b ∈ r.algorithms) (hd : d ∈ b.constants)
    (h : c.name = d.name) : a = b ∧ c = d := by
  have hpair := List.inj_on_of_nodup_map r.nodup_constantNames (mem_constants.2 ⟨ha, hc⟩)
    (mem_constants.2 ⟨hb, hd⟩) h
  exact ⟨congrArg Prod.fst hpair, congrArg Prod.snd hpair⟩

theorem Signature.containedIn_iff {data signature : List UInt8} (h : signature ≠ []) :
    containedIn data signature = true ↔ signature <:+: data := by
  rw [containedIn, offset?, if_neg (mt List.isEmpty_iff.1 h), ← Search.occurs,
    Search.occurs_iff_infix]

theorem Signature.containedInRegions_iff_exists {regions : List String}
    {region? : String → Option (List UInt8)} {signature : List UInt8} :
    containedInRegions regions region? signature = true ↔
      ∃ name ∈ regions, ∃ data, region? name = some data ∧ containedIn data signature = true := by
  simp only [containedInRegions, List.any_eq_true, Option.any_eq_true]

theorem Signature.get?_scan {regions : List String} {region? : String → Option (List UInt8)}
    {r : Registry} {name : String} {found : Bool} :
    (scan regions region? r).get? name = some found ↔
      ∃ a ∈ r.algorithms, ∃ c ∈ a.constants,
        c.name = name ∧ containedInRegions regions region? c.bytes = found := by
  rw [scan, OrderedMap.get?_ofList_map r.nodup_constantNames]
  constructor
  · rintro ⟨⟨a, c⟩, hmem, hname, hfound⟩
    obtain ⟨ha, hc⟩ := Registry.mem_constants.1 hmem
    exact ⟨a, ha, c, hc, hname, hfound⟩
  · rintro ⟨a, ha, c, hc, hname, hfound⟩
    exact ⟨(a, c), Registry.mem_constants.2 ⟨ha, hc⟩, hname, hfound⟩

end CryptoSurvey
