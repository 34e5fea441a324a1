import CryptoSurvey.Proofs.Sections

namespace CryptoSurvey

namespace Search

variable {α : Type}

def StandsAt (needle hay : List α) (i : Nat) : Prop :=
  i ≤ hay.length ∧ needle <+: hay.drop i

def FirstAt (needle hay : List α) (i : Nat) : Prop :=
  StandsAt needle hay i ∧ ∀ j < i, ¬ StandsAt needle hay j

variable {needle hay : List α} {a : α} {i : Nat}

theorem standsAt_zero : StandsAt needle hay 0 ↔ needle <+: hay := by
  simp [StandsAt]

theorem standsAt_cons_succ : StandsAt needle (a :: hay) (i + 1) ↔ StandsAt needle hay i := by
  simp [StandsAt]

theorem firstAt_zero : FirstAt needle hay 0 ↔ needle <+: hay := by
  rw [FirstAt, standsAt_zero]
  exact and_iff_left fun j hj => absurd hj (Nat.not_lt_zero j)

theorem firstAt_cons_succ :
    FirstAt needle (a :: hay) (i + 1) ↔ ¬ needle <+: a :: hay ∧ FirstAt needle hay i := by
  rw [FirstAt, standsAt_cons_succ, FirstAt]
  constructor
  · rintro ⟨hi, hbefore⟩
    refine ⟨mt standsAt_zero.2 (hbefore 0 (Nat.succ_pos i)), hi, ?_⟩
    intro j hj
    exact mt standsAt_cons_succ.2 (hbefore (j + 1) (Nat.succ_lt_succ hj))
  · rintro ⟨hzero, hi, hbefore⟩
    refine ⟨hi, ?_⟩
    intro j hj
    cases j with
    | zero => exact mt standsAt_zero.1 hzero
    | succ j => exact mt standsAt_cons_succ.1 (hbefore j (Nat.lt_of_succ_lt_succ hj))

variable [BEq α] [LawfulBEq α]

omit [LawfulBEq α] in
theorem offsetFrom?_eq_map (needle : List α) (i : Nat) (hay : List α) :
    offsetFrom? needle i hay = (offset? needle hay).map (· + i) := by
  rw [offset?]
  -- both counts move on with the text, so the start of neither is fixed
  induction hay generalizing i with
  | nil =>
    simp only [offsetFrom?]
    split
    · simp
    · rfl
  | cons a rest ih =>
    simp only [offsetFrom?]
    split
    · simp
    · rw [ih (i + 1), ih (0 + 1), Option.map_map]
      congr 1
      funext j
      simp only [Function.comp_apply]
      omega

theorem offset?_eq_some_iff : offset? needle hay = some i ↔ FirstAt needle hay i := by
  induction hay generalizing i with
  | nil =>
    rw [offset?, offsetFrom?, Option.ite_none_right_eq_some, List.isEmpty_iff]
    cases i with
    | zero => simp [firstAt_zero]
    | succ i => simp [FirstAt, StandsAt]
  | cons a rest ih =>
    rw [offset?, offsetFrom?, offsetFrom?_eq_map]
    cases i with
    | zero =>
      rw [firstAt_zero, ← List.isPrefixOf_iff_prefix]
      split
      · simp [*]
      · simp [*]
    | succ i =>
      rw [firstAt_cons_succ, ← List.isPrefixOf_iff_prefix, ← ih]
      split
      · simp [*]
      · simp [*]

theorem exists_offset?_iff : (∃ i, offset? needle hay = some i) ↔ needle <:+: hay := by
  rw [← Option.isSome_iff_exists, ← occurs, occurs_iff_infix]

end Search

namespace Signature

variable {r : Registry} {a : Algorithm} {c : Constant} {data : List UInt8}

theorem offset?_of_ne_nil {signature : List UInt8} (h : signature ≠ []) :
    offset? data signature = Search.offset? signature data := by
  rw [offset?, if_neg (mt List.isEmpty_iff.1 h)]

theorem get?_locate {name : String} {i : Nat} :
    (locate r data).get? name = some i ↔
      ∃ a ∈ r.algorithms, ∃ c ∈ a.constants, c.name = name ∧ Search.FirstAt c.bytes data i := by
  rw [locate, OrderedMap.get?_ofList_filterMap r.nodup_constantNames]
  constructor
  · rintro ⟨⟨a, c⟩, hmem, hname, hi⟩
    obtain ⟨ha, hc⟩ := Registry.mem_constants.1 hmem
    rw [offset?_of_ne_nil (r.bytes_ne_nil ha hc), Search.offset?_eq_some_iff] at hi
    exact ⟨a, ha, c, hc, hname, hi⟩
  · rintro ⟨a, ha, c, hc, hname, hi⟩
    refine ⟨(a, c), Registry.mem_constants.2 ⟨ha, hc⟩, hname, ?_⟩
    rw [offset?_of_ne_nil (r.bytes_ne_nil ha hc), Search.offset?_eq_some_iff]
    exact hi

theorem get?_locate_of_mem (ha : a ∈ r.algorithms) (hc : c ∈ a.constants) {i : Nat} :
    (locate r data).get? c.name = some i ↔ Search.FirstAt c.bytes data i := by
  rw [get?_locate]
  constructor
  · rintro ⟨b, hb, d, hd, hname, hi⟩
    obtain ⟨_, rfl⟩ := Registry.eq_of_constantName_eq hb hd ha hc hname
    exact hi
  · intro hi
    exact ⟨a, ha, c, hc, rfl, hi⟩

theorem exists_get?_locate_iff (ha : a ∈ r.algorithms) (hc : c ∈ a.constants) :
    (∃ i, (locate r data).get? c.name = some i) ↔ c.bytes <:+: data := by
  rw [← Search.exists_offset?_iff]
  apply exists_congr
  intro i
  rw [get?_locate_of_mem ha hc, Search.offset?_eq_some_iff]

end Signature

namespace Image

variable {data : ByteArray} {image : Image} {s : Section} {contents : List UInt8}

theorem infix_of_contents? {header : SectionHeader} (h : contents? data header = some contents) :
    contents <:+: data.data.toList := by
  rw [contents?] at h
  split at h
  · cases h
    exact List.nil_infix
  · obtain ⟨_, rfl⟩ := Bytes.slice?_eq h
    exact List.infix_iff_prefix_suffix.2 ⟨_, List.take_prefix _ _, List.drop_suffix _ _⟩

theorem sections_of_parse (h : parse data = .ok image) :
    ∃ (headers : List SectionHeader) (names : NameTable),
      image.sections = headers.map fun s => ⟨names.name? data s.name, contents? data s⟩ := by
  -- of the steps only those count that read the headers and the table of their names
  rw [parse] at h
  obtain ⟨_, _, h⟩ := exists_of_bind_eq_ok h
  obtain ⟨l, _, h⟩ := exists_of_bind_eq_ok h
  obtain ⟨header, _, h⟩ := exists_of_bind_eq_ok h
  obtain ⟨_, _, h⟩ := exists_of_bind_eq_ok h
  obtain ⟨headers, _, h⟩ := exists_of_bind_eq_ok h
  obtain ⟨names, _, h⟩ := exists_of_bind_eq_ok h
  obtain ⟨_, _, h⟩ := exists_of_bind_eq_ok h
  obtain ⟨_, _, h⟩ := exists_of_bind_eq_ok h
  obtain ⟨_, _, h⟩ := exists_of_bind_eq_ok h
  cases h
  exact ⟨headers.drop 1, names, rfl⟩

theorem infix_of_parse (h : parse data = .ok image) (hs : s ∈ image.sections)
    (hcontents : s.contents? = some contents) : contents <:+: data.data.toList := by
  obtain ⟨headers, names, hsections⟩ := sections_of_parse h
  rw [hsections] at hs
  obtain ⟨header, _, rfl⟩ := List.mem_map.1 hs
  exact infix_of_contents? hcontents

theorem Contains.inFile {regions : List String} {bytes : List UInt8} (h : image.Contains regions bytes)
    (hparse : parse data = .ok image) : bytes <:+: data.data.toList := by
  obtain ⟨s, hs, name, _, contents, hread, hbytes⟩ := h
  obtain ⟨_, hcontents⟩ := Option.ite_none_right_eq_some.1 hread
  exact hbytes.trans (infix_of_parse hparse hs hcontents)

end Image

/-- Constants that are flagged in the record of a library are located in its file, each at the least
position at which it stands, and those are located that stand anywhere in the file. -/
theorem Native.flagged_located (rules : RuleSet) (m : Matcher) (l : Library) (image : Image)
    (h : Image.parse l.data = .ok image) :
    ∃ record, examine rules m l = .ok record ∧
      ∀ a ∈ rules.registry.algorithms, ∀ c ∈ a.constants,
        (record.constants.get? c.name = some true →
          ∃ i, (l.locateConstants rules.registry).get? c.name = some i ∧
            Search.FirstAt c.bytes l.data.data.toList i) ∧
        ((∃ i, (l.locateConstants rules.registry).get? c.name = some i) ↔
          c.bytes <:+: l.data.data.toList) := by
  obtain ⟨record, hrecord, _, hconstants⟩ := examine_of_parse h
  refine ⟨record, hrecord, ?_⟩
  intro a ha c hc
  have hlocated : (∃ i, (l.locateConstants rules.registry).get? c.name = some i) ↔
      c.bytes <:+: l.data.data.toList :=
    Signature.exists_get?_locate_iff ha hc
  refine ⟨?_, hlocated⟩
  intro hflag
  rw [hconstants, flagged_iff ha hc] at hflag
  obtain ⟨i, hi⟩ := hlocated.2 (hflag.contains.inFile h)
  exact ⟨i, hi, (Signature.get?_locate_of_mem ha hc).1 hi⟩

namespace Native

/-- A library in which the bytes of a constant stand before its section of read-only data and in it. -/
def bytesTwice : Library where
  path := "lib/libtwice.so"
  data := plainFile ("\x00.rodata\x00".toUTF8.data.toList ++ [0xd6, 0x90, 0xd6, 0x90])
    [[0, 3, 0, 0, 52, 9, 0, 0, 1, 0], [1, 1, 0, 0, 63, 2, 0, 0, 1, 0]]

theorem flagged_located_bytesTwice :
    ∃ record, examine rodataRules (.ofRegistry Managed.twoAlgorithms {}) bytesTwice = .ok record ∧
      record.constants.get? "sbox" = some true ∧
      (bytesTwice.locateConstants rodataRules.registry).get? "sbox" = some 61 ∧
      Search.FirstAt [0xd6, 0x90] bytesTwice.data.data.toList 61 := by
  have hparse : (Image.parse bytesTwice.data).map (·.sections.length) = .ok 2 := by decide +kernel
  have hflag : (examine rodataRules (.ofRegistry Managed.twoAlgorithms {}) bytesTwice).map
      (·.constants.get? "sbox") = .ok (some true) := by
    decide +kernel
  have hlocated : (bytesTwice.locateConstants rodataRules.registry).get? "sbox" = some 61 := by
    decide +kernel
  obtain ⟨image, hparse, _⟩ := exists_of_map_eq_ok hparse
  obtain ⟨record, hrecord, hconstants⟩ := flagged_located rodataRules
    (.ofRegistry Managed.twoAlgorithms {}) bytesTwice image hparse
  obtain ⟨hflagged, _⟩ := hconstants ⟨"sm4", [], [⟨"sbox", [0xd6, 0x90]⟩]⟩ (by decide)
    ⟨"sbox", [0xd6, 0x90]⟩ (by decide)
  rw [hrecord] at hflag
  have hflag : record.constants.get? "sbox" = some true := Except.ok.inj hflag
  obtain ⟨i, hi, hfirst⟩ := hflagged hflag
  rw [hlocated] at hi
  cases hi
  exact ⟨record, hrecord, hflag, hlocated, hfirst⟩

end Native

end CryptoSurvey
