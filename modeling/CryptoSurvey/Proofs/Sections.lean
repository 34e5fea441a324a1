import CryptoSurvey.Proofs.Symbols

namespace CryptoSurvey

/-- What a section holds under a name, if its name and its contents can be read. -/
def Section.read? (s : Section) (name : String) : Option (List UInt8) :=
  if s.name? = some name then s.contents? else none

namespace Image

def Contains (image : Image) (regions : List String) (bytes : List UInt8) : Prop :=
  ∃ s ∈ image.sections, ∃ name ∈ regions, ∃ contents ∈ s.read? name, bytes <:+: contents

/-- The contents are those of the first section of the name that can be read. -/
def Foremost (image : Image) (name : String) (contents : List UInt8) : Prop :=
  ∃ before s after, image.sections = before ++ s :: after ∧ s.read? name = some contents ∧
    ∀ t ∈ before, t.read? name = none

/-- The first section of a scanned name that can be read contains the bytes. -/
def ContainsFirst (image : Image) (regions : List String) (bytes : List UInt8) : Prop :=
  ∃ name ∈ regions, ∃ contents, image.Foremost name contents ∧ bytes <:+: contents

/-- Of the sections with one scanned name at most one can be read. -/
def Unambiguous (image : Image) (regions : List String) : Prop :=
  image.sections.Pairwise fun s t => ∀ name ∈ regions, s.read? name = none ∨ t.read? name = none

variable {image : Image} {regions : List String} {bytes : List UInt8}

instance : Decidable (image.Contains regions bytes) :=
  inferInstanceAs (Decidable (∃ s ∈ image.sections, _))

instance : Decidable (image.Unambiguous regions) :=
  inferInstanceAs (Decidable (image.sections.Pairwise _))

theorem ContainsFirst.contains (h : image.ContainsFirst regions bytes) :
    image.Contains regions bytes := by
  obtain ⟨name, hname, contents, ⟨before, s, after, hsections, hs, _⟩, hbytes⟩ := h
  have hmem : s ∈ image.sections := by
    rw [hsections]
    exact List.mem_append_right before List.mem_cons_self
  exact ⟨s, hmem, name, hname, contents, hs, hbytes⟩

theorem Unambiguous.containsFirst (hone : image.Unambiguous regions)
    (h : image.Contains regions bytes) : image.ContainsFirst regions bytes := by
  obtain ⟨s, hmem, name, hname, contents, hs, hbytes⟩ := h
  obtain ⟨before, after, hsections⟩ := List.append_of_mem hmem
  refine ⟨name, hname, contents, ⟨before, s, after, hsections, hs, ?_⟩, hbytes⟩
  intro t ht
  rw [Unambiguous, hsections, List.pairwise_append] at hone
  obtain ⟨_, _, hbefore⟩ := hone
  rcases hbefore t ht s List.mem_cons_self name hname with hnone | hnone
  · exact hnone
  · rw [Option.mem_def, hnone] at hs
    cases hs

theorem get?_keepSection (kept : OrderedMap String (List UInt8)) (s : Section) (name : String) :
    (keepSection kept s).get? name = (kept.get? name).or (s.read? name) := by
  rw [keepSection, Section.read?]
  split
  · rename_i own contents hown hcontents
    rw [hown, hcontents]
    by_cases hname : name = own
    · rw [hname, OrderedMap.get?_alter_self, if_pos rfl]
      cases kept.get? own with
      | none => rfl
      | some old => rfl
    · rw [OrderedMap.get?_alter_of_ne hname, if_neg (by simpa using Ne.symm hname), Option.or_none]
  · rename_i hunread
    have hnone : (if s.name? = some name then s.contents? else none) = none := by
      split
      · rename_i hown
        cases hcontents : s.contents? with
        | none => rfl
        | some contents => exact absurd hcontents (hunread name contents hown)
      · rfl
    rw [hnone, Option.or_none]

theorem get?_foldl_keepSection (sections : List Section) (kept : OrderedMap String (List UInt8))
    (name : String) :
    (sections.foldl keepSection kept).get? name =
      (kept.get? name).or (sections.findSome? (·.read? name)) := by
  induction sections generalizing kept with
  | nil => simp
  | cons s rest ih =>
    rw [List.foldl_cons, ih, get?_keepSection, Option.or_assoc, List.findSome?_cons]
    cases s.read? name with
    | none => rfl
    | some contents => rfl

theorem region?_eq_some_iff {name : String} {contents : List UInt8} :
    image.region? name = some contents ↔ image.Foremost name contents := by
  rw [region?, Image.regions, get?_foldl_keepSection, OrderedMap.get?_empty, Option.none_or,
    List.findSome?_eq_some_iff, Foremost]

theorem containedInRegions_iff (h : bytes ≠ []) :
    Signature.containedInRegions regions image.region? bytes = true ↔
      image.ContainsFirst regions bytes := by
  rw [Signature.containedInRegions_iff_exists, ContainsFirst]
  simp only [region?_eq_some_iff, Signature.containedIn_iff h]

end Image

namespace Signature

variable {r : Registry} {a : Algorithm} {c : Constant}

theorem get?_scan_of_mem (ha : a ∈ r.algorithms) (hc : c ∈ a.constants) (regions : List String)
    (region? : String → Option (List UInt8)) :
    (scan regions region? r).get? c.name = some (containedInRegions regions region? c.bytes) :=
  get?_scan.2 ⟨a, ha, c, hc, rfl, rfl⟩

theorem keys_scan (r : Registry) (regions : List String) (region? : String → Option (List UInt8)) :
    (scan regions region? r).keys.Perm (r.constants.map (·.2.name)) := by
  apply OrderedMap.keys_perm r.nodup_constantNames
  intro k
  rw [List.mem_map]
  constructor
  · rintro ⟨found, hfound⟩
    obtain ⟨a, ha, c, hc, hk, _⟩ := get?_scan.1 hfound
    exact ⟨(a, c), Registry.mem_constants.2 ⟨ha, hc⟩, hk⟩
  · rintro ⟨⟨a, c⟩, hmem, rfl⟩
    obtain ⟨ha, hc⟩ := Registry.mem_constants.1 hmem
    exact ⟨_, get?_scan_of_mem ha hc regions region?⟩

end Signature

namespace Native

theorem flagged_iff {rules : RuleSet} {image : Image} {a : Algorithm} {c : Constant}
    (ha : a ∈ rules.registry.algorithms) (hc : c ∈ a.constants) :
    (Signature.scan rules.regions image.region? rules.registry).get? c.name = some true ↔
      image.ContainsFirst rules.regions c.bytes := by
  rw [Signature.get?_scan_of_mem ha hc, Option.some.injEq,
    Image.containedInRegions_iff (rules.registry.bytes_ne_nil ha hc)]

/-- The record has a flag for every registered constant and for no other, and the flag is set if the
constant stands in the first section of a scanned name that can be read. That is to stand in any
section of a scanned name as long as no two of one name can be read. -/
theorem examine_constants (rules : RuleSet) (m : Matcher) (l : Library) (image : Image)
    (h : Image.parse l.data = .ok image) :
    ∃ record, examine rules m l = .ok record ∧
      record.constants.keys.Perm (rules.registry.constants.map (·.2.name)) ∧
      (∀ a ∈ rules.registry.algorithms, ∀ c ∈ a.constants,
        record.constants.get? c.name = some true ↔ image.ContainsFirst rules.regions c.bytes) ∧
      (image.Unambiguous rules.regions → ∀ a ∈ rules.registry.algorithms, ∀ c ∈ a.constants,
        record.constants.get? c.name = some true ↔ image.Contains rules.regions c.bytes) := by
  obtain ⟨record, hrecord, _, hconstants⟩ := examine_of_parse h
  refine ⟨record, hrecord, ?_, ?_, ?_⟩
  · rw [hconstants]
    exact Signature.keys_scan _ _ _
  · intro a ha c hc
    rw [hconstants]
    exact flagged_iff ha hc
  · intro hone a ha c hc
    rw [hconstants, flagged_iff ha hc]
    exact ⟨Image.ContainsFirst.contains, hone.containsFirst⟩

def rodataRules : RuleSet :=
  ⟨Managed.twoAlgorithms, {}, [".rodata"], ∅⟩

/-- A library with two sections of read-only data, the first of one byte at the given place and the
second of the bytes of a constant. -/
def twinSections (first : UInt8) : Library where
  path := "lib/libtwin.so"
  data := plainFile ("\x00.rodata\x00".toUTF8.data.toList ++ [0, 0xd6, 0x90])
    [[0, 3, 0, 0, 52, 9, 0, 0, 1, 0], [1, 1, 0, 0, first, 1, 0, 0, 1, 0],
      [1, 1, 0, 0, 62, 2, 0, 0, 1, 0]]

theorem examine_constants_brokenTwin :
    ∃ image, Image.parse (twinSections 250).data = .ok image ∧ image.Unambiguous [".rodata"] ∧
      ∃ record, examine rodataRules (.ofRegistry Managed.twoAlgorithms {}) (twinSections 250) =
          .ok record ∧
        record.constants.get? "sbox" = some true := by
  have hsections : (Image.parse (twinSections 250).data).map (fun image =>
      (image.Unambiguous [".rodata"] : Bool) && image.Contains [".rodata"] [0xd6, 0x90]) = .ok true := by
    decide +kernel
  obtain ⟨image, hparse, hsections⟩ := exists_of_map_eq_ok hsections
  obtain ⟨hone, hcontains⟩ := Bool.and_eq_true_iff.1 hsections
  obtain ⟨record, hrecord, _, _, hflags⟩ := examine_constants rodataRules
    (.ofRegistry Managed.twoAlgorithms {}) (twinSections 250) image hparse
  refine ⟨image, hparse, of_decide_eq_true hone, record, hrecord, ?_⟩
  have hflag := hflags (of_decide_eq_true hone) ⟨"sm4", [], [⟨"sbox", [0xd6, 0x90]⟩]⟩ (by decide)
    ⟨"sbox", [0xd6, 0x90]⟩ (by decide)
  exact hflag.2 (of_decide_eq_true hcontains)

/-- If both sections can be read, the second is not seen. -/
theorem twinSections_hidden :
    ∃ image, Image.parse (twinSections 61).data = .ok image ∧
      image.Contains [".rodata"] [0xd6, 0x90] ∧
      ∃ record, examine rodataRules (.ofRegistry Managed.twoAlgorithms {}) (twinSections 61) =
          .ok record ∧
        record.constants.get? "sbox" = some false := by
  have hcontains : (Image.parse (twinSections 61).data).map (fun image =>
      (image.Contains [".rodata"] [0xd6, 0x90] : Bool)) = .ok true := by
    decide +kernel
  have hflag : (examine rodataRules (.ofRegistry Managed.twoAlgorithms {}) (twinSections 61)).map
      (·.constants.get? "sbox") = .ok (some false) := by
    decide +kernel
  obtain ⟨image, hparse, hcontains⟩ := exists_of_map_eq_ok hcontains
  obtain ⟨record, hrecord, hflag⟩ := exists_of_map_eq_ok hflag
  exact ⟨image, hparse, of_decide_eq_true hcontains, record, hrecord, hflag⟩

end Native

end CryptoSurvey
