import CryptoSurvey.Proofs.Attribution
import CryptoSurvey.Proofs.Managed
import CryptoSurvey.Report.Row

namespace CryptoSurvey

def OrderedMap.flagged (m : OrderedMap String Bool) : List String :=
  (m.entries.filter (·.2)).map (·.1)

theorem OrderedMap.mem_flagged {m : OrderedMap String Bool} {k : String} :
    k ∈ m.flagged ↔ m.get? k = some true := by
  rw [get?_eq_some_iff, flagged, List.mem_map]
  constructor
  · rintro ⟨⟨k, found⟩, hmem, rfl⟩
    obtain ⟨hmem, rfl⟩ := List.mem_filter.1 hmem
    exact hmem
  · intro h
    exact ⟨(k, true), List.mem_filter.2 ⟨h, rfl⟩, rfl⟩

theorem OrderedMap.nodup_flagged (m : OrderedMap String Bool) : m.flagged.Nodup := by
  have hsublist : m.flagged.Sublist m.keys := List.filter_sublist.map Prod.fst
  exact m.nodup_keys.sublist hsublist

theorem nodup_eraseDups {α : Type} [BEq α] [LawfulBEq α] : (l : List α) → l.eraseDups.Nodup
  | [] => List.nodup_nil
  | a :: rest => by
    rw [List.eraseDups_cons, List.nodup_cons]
    refine ⟨?_, nodup_eraseDups _⟩
    simp [List.mem_eraseDups]
termination_by l => l.length
decreasing_by exact Nat.lt_succ_of_le (List.length_filter_le _ _)

namespace LibraryRecord

/-- The library has a symbol or a found constant of the algorithm. -/
def Shows (l : LibraryRecord) (a : Algorithm) : Prop :=
  (∃ own ∈ l.symbols.get? a.name, own ≠ []) ∨ ∃ c ∈ a.constants, l.constants.get? c.name = some true

instance (l : LibraryRecord) (a : Algorithm) : Decidable (l.Shows a) :=
  inferInstanceAs (Decidable (_ ∨ _))

/-- The record stores something for just the algorithms and the constants of a registry, and no
symbol twice. -/
structure About (registry : Registry) (l : LibraryRecord) : Prop where
  algorithms : ∀ name, (∃ own, l.symbols.get? name = some own) ↔ registry.Names name
  constants : ∀ k, (∃ found, l.constants.get? k = some found) ↔ registry.NamesConstant k
  nodup : ∀ name own, l.symbols.get? name = some own → own.Nodup
  apart : ∀ name name' own own', l.symbols.get? name = some own →
    l.symbols.get? name' = some own' → ∀ s ∈ own, s ∈ own' → name = name'

theorem hasEvidence_iff {l : LibraryRecord} :
    l.hasEvidence = true ↔
      (∃ name own, l.symbols.get? name = some own ∧ own ≠ []) ∨
        ∃ k, l.constants.get? k = some true := by
  rw [hasEvidence, Bool.or_eq_true, List.any_eq_true, List.any_eq_true]
  refine or_congr ?_ ?_
  · constructor
    · rintro ⟨own, hown, hne⟩
      obtain ⟨name, hname⟩ := OrderedMap.mem_values_iff.1 hown
      exact ⟨name, own, hname, by simpa using hne⟩
    · rintro ⟨name, own, hname, hne⟩
      exact ⟨own, OrderedMap.mem_values_iff.2 ⟨name, hname⟩, by simpa using hne⟩
  · constructor
    · rintro ⟨found, hfound, rfl⟩
      exact OrderedMap.mem_values_iff.1 hfound
    · intro h
      exact ⟨true, OrderedMap.mem_values_iff.2 h, rfl⟩

theorem mem_symbols {l : LibraryRecord} {s : String} :
    s ∈ l.symbols.values.flatten ↔ ∃ name own, l.symbols.get? name = some own ∧ s ∈ own := by
  rw [List.mem_flatten]
  constructor
  · rintro ⟨own, hown, hs⟩
    obtain ⟨name, hname⟩ := OrderedMap.mem_values_iff.1 hown
    exact ⟨name, own, hname, hs⟩
  · rintro ⟨name, own, hname, hs⟩
    exact ⟨own, OrderedMap.mem_values_iff.2 ⟨name, hname⟩, hs⟩

namespace About

variable {registry : Registry} {l : LibraryRecord} (h : l.About registry)
include h

/-- What is stored belongs to a registered algorithm, so walking the registry finds it. -/
theorem hasEvidence_iff :
    l.hasEvidence = true ↔ ∃ a ∈ registry.algorithms, l.Shows a := by
  rw [LibraryRecord.hasEvidence_iff]
  constructor
  · rintro (⟨name, own, hown, hne⟩ | ⟨k, hk⟩)
    · obtain ⟨a, ha, rfl⟩ := (h.algorithms name).1 ⟨own, hown⟩
      exact ⟨a, ha, .inl ⟨own, hown, hne⟩⟩
    · obtain ⟨a, ha, c, hc, rfl⟩ := (h.constants k).1 ⟨true, hk⟩
      exact ⟨a, ha, .inr ⟨c, hc, hk⟩⟩
  · rintro ⟨a, ha, ⟨own, hown, hne⟩ | ⟨c, hc, hk⟩⟩
    · exact .inl ⟨a.name, own, hown, hne⟩
    · exact .inr ⟨c.name, hk⟩

theorem nodup_symbols : l.symbols.values.flatten.Nodup := by
  rw [List.nodup_flatten]
  constructor
  · intro own hown
    obtain ⟨name, hname⟩ := OrderedMap.mem_values_iff.1 hown
    exact h.nodup name own hname
  · rw [OrderedMap.values, List.pairwise_map]
    refine l.symbols.increasing.imp_of_mem ?_
    rintro ⟨name, own⟩ ⟨name', own'⟩ hmem hmem' hlt s hs hs'
    have hname : name = name' := h.apart name name' own own' (OrderedMap.get?_eq_some_iff.2 hmem)
      (OrderedMap.get?_eq_some_iff.2 hmem') s hs hs'
    rw [hname] at hlt
    exact compare_self_ne_lt _ hlt

end About

end LibraryRecord

/-- The record of an analysed library is about the registry that it was analysed with. -/
theorem Native.about_of_examine {rules : RuleSet} {m : Matcher} {l : Library}
    {record : LibraryRecord} (h : examine rules m l = .ok record) :
    record.About rules.registry := by
  rw [examine] at h
  split at h
  · cases h
  · rename_i image himage
    cases h
    constructor
    · intro name
      simp only [get?_symbolsByAlgorithm, exists_and_left, exists_eq', and_true]
    · intro k
      simp only [Signature.get?_scan]
      constructor
      · rintro ⟨_, a, ha, c, hc, hk, _⟩
        exact ⟨a, ha, c, hc, hk⟩
      · rintro ⟨a, ha, c, hc, hk⟩
        exact ⟨_, a, ha, c, hc, hk, rfl⟩
    · intro name own hown
      obtain ⟨_, rfl⟩ := get?_symbolsByAlgorithm.1 hown
      exact (nodup_eraseDups _).filter _
    · intro name name' own own' hown hown' s hs hs'
      obtain ⟨_, rfl⟩ := get?_symbolsByAlgorithm.1 hown
      obtain ⟨_, rfl⟩ := get?_symbolsByAlgorithm.1 hown'
      have hname := beq_iff_eq.1 (List.mem_filter.1 hs).2
      have hname' := beq_iff_eq.1 (List.mem_filter.1 hs').2
      exact Option.some.inj (hname.symm.trans hname')

namespace NativeRow

def shown (app : String) (l : LibraryRecord) (a : Algorithm) : NativeRow where
  app := app
  library := l.name
  path := l.path
  algorithm? := some a.name
  symbols := (l.symbols.get? a.name).getD []
  constants := .ofList (a.constants.map fun c => (c.name, (l.constants.get? c.name).getD false))
  packer := l.packer

def bare (app : String) (l : LibraryRecord) : NativeRow where
  app := app
  library := l.name
  path := l.path
  algorithm? := none
  symbols := []
  constants := l.constants
  packer := l.packer

/-- The rows of the algorithms that a library shows, in order of priority. -/
def allShown (registry : Registry) (app : String) (l : LibraryRecord) : List NativeRow :=
  (registry.algorithms.filter (l.Shows ·)).map (shown app l)

section Shown

variable {registry : Registry} {app : String} {l : LibraryRecord} {a : Algorithm}
variable (ha : a ∈ registry.algorithms)
include ha

theorem get?_shown {k : String} {found : Bool} :
    (shown app l a).constants.get? k = some found ↔
      ∃ c ∈ a.constants, c.name = k ∧ (l.constants.get? c.name).getD false = found :=
  OrderedMap.get?_ofList_map ((List.nodup_flatMap.1 registry.nodup_constants).1 a ha)

theorem ofAlgorithm?_eq :
    ofAlgorithm? app l a = if l.Shows a then some (shown app l a) else none := by
  have hsymbols : (shown app l a).symbols.isEmpty = false ↔
      ∃ own ∈ l.symbols.get? a.name, own ≠ [] := by
    rw [shown]
    cases l.symbols.get? a.name with
    | none => simp
    | some own => simp
  have hconstants : (shown app l a).constants.values.any id = true ↔
      ∃ c ∈ a.constants, l.constants.get? c.name = some true := by
    rw [List.any_eq_true]
    constructor
    · rintro ⟨found, hfound, rfl⟩
      obtain ⟨k, hk⟩ := OrderedMap.mem_values_iff.1 hfound
      obtain ⟨c, hc, rfl, hget⟩ := (get?_shown ha).1 hk
      exact ⟨c, hc, by simpa [Option.getD_eq_iff] using hget⟩
    · rintro ⟨c, hc, hget⟩
      refine ⟨true, OrderedMap.mem_values_iff.2 ⟨c.name, ?_⟩, rfl⟩
      exact (get?_shown ha).2 ⟨c, hc, rfl, by rw [hget]; rfl⟩
  have hshows : l.Shows a ↔ ((shown app l a).symbols.isEmpty &&
      !(shown app l a).constants.values.any id) = false := by
    rw [Bool.and_eq_false_iff, Bool.not_eq_false', hsymbols, hconstants]
    rfl
  rw [ofAlgorithm?]
  split
  · rename_i hnone
    rw [if_neg]
    rw [hshows, Bool.not_eq_false]
    exact hnone
  · rename_i hsome
    rw [if_pos]
    · rfl
    · exact hshows.2 (Bool.eq_false_iff.2 hsome)

end Shown

theorem filterMap_ofAlgorithm? (registry : Registry) (app : String) (l : LibraryRecord) :
    registry.algorithms.filterMap (ofAlgorithm? app l) = allShown registry app l := by
  rw [allShown, List.filterMap_congr fun a ha => ofAlgorithm?_eq ha, ← List.filterMap_eq_map,
    List.filterMap_filter]
  simp

/-- The walk through the registry makes the bare row just if the record shows nothing. -/
theorem ofLibrary_eq {registry : Registry} {l : LibraryRecord} (h : l.About registry)
    (app : String) : ofLibrary registry app l =
      if l.hasEvidence then allShown registry app l else [bare app l] := by
  rw [ofLibrary, filterMap_ofAlgorithm?]
  split
  · rename_i hnil
    rw [allShown, List.map_eq_nil_iff, List.filter_eq_nil_iff] at hnil
    rw [if_neg]
    · rfl
    · rw [h.hasEvidence_iff]
      rintro ⟨a, ha, hshows⟩
      exact hnil a ha (decide_eq_true hshows)
  · rename_i hne
    rw [allShown, List.map_eq_nil_iff, List.filter_eq_nil_iff] at hne
    rw [if_pos]
    rw [h.hasEvidence_iff]
    by_contra hnone
    exact hne fun a ha hshows => hnone ⟨a, ha, of_decide_eq_true hshows⟩

end NativeRow

/-- Rows say what the record of a library says: under its heading there is a row for every algorithm
that it shows, or a bare row if there is none, and nothing found is lost or told twice. -/
structure LibraryRecord.ToldBy (registry : Registry) (app : String) (l : LibraryRecord)
    (rows : List NativeRow) : Prop where
  nonempty : rows ≠ []
  heading : ∀ row ∈ rows,
    row.app = app ∧ row.library = l.name ∧ row.path = l.path ∧ row.packer = l.packer
  bare : (∃ row, rows = [row] ∧ row.algorithm? = none) ↔ l.hasEvidence = false
  algorithms : l.hasEvidence = true → rows.map (·.algorithm?) =
    (registry.algorithms.filter (l.Shows ·)).map (some ·.name)
  distinct : (rows.map (·.algorithm?)).Nodup
  symbols : ∀ row ∈ rows, ∀ a ∈ registry.algorithms, row.algorithm? = some a.name →
    l.symbols.get? a.name = some row.symbols
  constants : ∀ row ∈ rows, ∀ a ∈ registry.algorithms, row.algorithm? = some a.name →
    ∀ k found, row.constants.get? k = some found ↔
      (∃ c ∈ a.constants, c.name = k) ∧ l.constants.get? k = some found
  symbolsOnce : (rows.flatMap (·.symbols)).Nodup
  allSymbols : (rows.flatMap (·.symbols)).Perm l.symbols.values.flatten
  constantsOnce : (rows.flatMap (·.constants.flagged)).Nodup
  allConstants : (rows.flatMap (·.constants.flagged)).Perm l.constants.flagged

namespace LibraryRecord.About

variable {registry : Registry} {l : LibraryRecord} (h : l.About registry) (app : String)
include h

theorem get?_symbols {a : Algorithm} (ha : a ∈ registry.algorithms) :
    l.symbols.get? a.name = some (NativeRow.shown app l a).symbols := by
  obtain ⟨own, hown⟩ := (h.algorithms a.name).2 ⟨a, ha, rfl⟩
  rw [NativeRow.shown, hown]
  rfl

theorem get?_constants {a : Algorithm} (ha : a ∈ registry.algorithms) {k : String} {found : Bool} :
    (NativeRow.shown app l a).constants.get? k = some found ↔
      (∃ c ∈ a.constants, c.name = k) ∧ l.constants.get? k = some found := by
  rw [NativeRow.get?_shown ha]
  constructor
  · rintro ⟨c, hc, rfl, hfound⟩
    obtain ⟨stored, hstored⟩ := (h.constants c.name).2 ⟨a, ha, c, hc, rfl⟩
    rw [hstored, Option.getD_some] at hfound
    rw [hstored, hfound]
    exact ⟨⟨c, hc, rfl⟩, rfl⟩
  · rintro ⟨⟨c, hc, rfl⟩, hfound⟩
    exact ⟨c, hc, rfl, by rw [hfound]; rfl⟩

omit h in
theorem pairwise_names :
    (registry.algorithms.filter (l.Shows ·)).Pairwise fun a b => a.name ≠ b.name :=
  (List.pairwise_map.1 registry.nodup_names).filter _

theorem nodup_flatMap_symbols : ((NativeRow.allShown registry app l).flatMap (·.symbols)).Nodup := by
  rw [NativeRow.allShown, List.flatMap_map, List.nodup_flatMap]
  constructor
  · intro a ha
    exact h.nodup a.name _ (h.get?_symbols app (List.mem_filter.1 ha).1)
  · refine pairwise_names.imp_of_mem ?_
    intro a b ha hb hne s hs hs'
    exact hne (h.apart a.name b.name _ _ (h.get?_symbols app (List.mem_filter.1 ha).1)
      (h.get?_symbols app (List.mem_filter.1 hb).1) s hs hs')

theorem mem_flatMap_symbols {s : String} :
    s ∈ (NativeRow.allShown registry app l).flatMap (·.symbols) ↔ s ∈ l.symbols.values.flatten := by
  rw [NativeRow.allShown, List.flatMap_map, List.mem_flatMap, mem_symbols]
  constructor
  · rintro ⟨a, ha, hs⟩
    exact ⟨a.name, _, h.get?_symbols app (List.mem_filter.1 ha).1, hs⟩
  · rintro ⟨name, own, hown, hs⟩
    obtain ⟨a, ha, rfl⟩ := (h.algorithms name).1 ⟨own, hown⟩
    have hshows : l.Shows a := .inl ⟨own, hown, List.ne_nil_of_mem hs⟩
    rw [h.get?_symbols app ha, Option.some.injEq] at hown
    exact ⟨a, List.mem_filter.2 ⟨ha, decide_eq_true hshows⟩, hown ▸ hs⟩

theorem nodup_flatMap_constants :
    ((NativeRow.allShown registry app l).flatMap (·.constants.flagged)).Nodup := by
  rw [NativeRow.allShown, List.flatMap_map, List.nodup_flatMap]
  constructor
  · intro a _
    exact OrderedMap.nodup_flagged _
  · refine pairwise_names.imp_of_mem ?_
    intro a b ha hb hne k hk hk'
    have ha := (List.mem_filter.1 ha).1
    have hb := (List.mem_filter.1 hb).1
    obtain ⟨⟨c, hc, hck⟩, _⟩ := (h.get?_constants app ha).1 (OrderedMap.mem_flagged.1 hk)
    obtain ⟨⟨d, hd, hdk⟩, _⟩ := (h.get?_constants app hb).1 (OrderedMap.mem_flagged.1 hk')
    have hab := (Registry.eq_of_constantName_eq ha hc hb hd (hck.trans hdk.symm)).1
    exact hne (congrArg Algorithm.name hab)

theorem mem_flatMap_constants {k : String} :
    k ∈ (NativeRow.allShown registry app l).flatMap (·.constants.flagged) ↔ k ∈ l.constants.flagged := by
  rw [NativeRow.allShown, List.flatMap_map, List.mem_flatMap, OrderedMap.mem_flagged]
  constructor
  · rintro ⟨a, ha, hk⟩
    exact ((h.get?_constants app (List.mem_filter.1 ha).1).1 (OrderedMap.mem_flagged.1 hk)).2
  · intro hk
    obtain ⟨a, ha, c, hc, rfl⟩ := (h.constants k).1 ⟨true, hk⟩
    have hshows : l.Shows a := .inr ⟨c, hc, hk⟩
    refine ⟨a, List.mem_filter.2 ⟨ha, decide_eq_true hshows⟩, OrderedMap.mem_flagged.2 ?_⟩
    exact (h.get?_constants app ha).2 ⟨⟨c, hc, rfl⟩, hk⟩

theorem toldBy_allShown (he : l.hasEvidence = true) :
    l.ToldBy registry app (NativeRow.allShown registry app l) where
  nonempty := by
    obtain ⟨a, ha, hshows⟩ := h.hasEvidence_iff.1 he
    exact List.ne_nil_of_mem
      (List.mem_map_of_mem (List.mem_filter.2 ⟨ha, decide_eq_true hshows⟩))
  heading := by
    intro row hrow
    obtain ⟨a, _, rfl⟩ := List.mem_map.1 hrow
    exact ⟨rfl, rfl, rfl, rfl⟩
  bare := by
    constructor
    · rintro ⟨row, hrows, hnone⟩
      have hrow : row ∈ NativeRow.allShown registry app l := hrows ▸ List.mem_singleton_self row
      obtain ⟨a, _, rfl⟩ := List.mem_map.1 hrow
      cases hnone
    · intro hno
      rw [he] at hno
      cases hno
  algorithms := by
    intro _
    rw [NativeRow.allShown, List.map_map]
    rfl
  distinct := by
    rw [NativeRow.allShown, List.map_map, List.Nodup, List.pairwise_map]
    refine pairwise_names.imp ?_
    intro a b hne hab
    exact hne (Option.some.inj hab)
  symbols := by
    intro row hrow b hb halgorithm
    obtain ⟨a, ha, rfl⟩ := List.mem_map.1 hrow
    rw [← Option.some.inj halgorithm]
    exact h.get?_symbols app (List.mem_filter.1 ha).1
  constants := by
    intro row hrow b hb halgorithm k found
    obtain ⟨a, ha, rfl⟩ := List.mem_map.1 hrow
    have ha := (List.mem_filter.1 ha).1
    rw [← Registry.eq_of_name_eq ha hb (Option.some.inj halgorithm)]
    exact h.get?_constants app ha
  symbolsOnce := h.nodup_flatMap_symbols app
  allSymbols := (List.perm_ext_iff_of_nodup (h.nodup_flatMap_symbols app) h.nodup_symbols).2
    fun _ => h.mem_flatMap_symbols app
  constantsOnce := h.nodup_flatMap_constants app
  allConstants := (List.perm_ext_iff_of_nodup (h.nodup_flatMap_constants app)
    (OrderedMap.nodup_flagged _)).2 fun _ => h.mem_flatMap_constants app

omit h in
theorem toldBy_bare (he : l.hasEvidence = false) :
    l.ToldBy registry app [NativeRow.bare app l] where
  nonempty := List.cons_ne_nil _ _
  heading := by
    intro row hrow
    rw [List.mem_singleton.1 hrow]
    exact ⟨rfl, rfl, rfl, rfl⟩
  bare := iff_of_true ⟨_, rfl, rfl⟩ he
  algorithms := by
    intro hev
    rw [he] at hev
    cases hev
  distinct := List.nodup_singleton _
  symbols := by
    intro row hrow a _ halgorithm
    rw [List.mem_singleton.1 hrow] at halgorithm
    cases halgorithm
  constants := by
    intro row hrow a _ halgorithm
    rw [List.mem_singleton.1 hrow] at halgorithm
    cases halgorithm
  symbolsOnce := List.nodup_nil
  allSymbols := by
    have hnil : l.symbols.values.flatten = [] := by
      rw [List.eq_nil_iff_forall_not_mem]
      intro s hs
      obtain ⟨name, own, hown, hs⟩ := mem_symbols.1 hs
      have hev := LibraryRecord.hasEvidence_iff.2 (.inl ⟨name, own, hown, List.ne_nil_of_mem hs⟩)
      rw [he] at hev
      cases hev
    rw [hnil]
    exact .nil
  constantsOnce := by
    rw [List.flatMap_singleton]
    exact OrderedMap.nodup_flagged _
  allConstants := by
    rw [List.flatMap_singleton]
    exact .refl _

end LibraryRecord.About

/-- The rows of an analysed library agree with its record. -/
theorem Native.toldBy_ofLibrary (rules : RuleSet) (m : Matcher) (l : Library)
    (record : LibraryRecord) (h : examine rules m l = .ok record) (app : String) :
    record.ToldBy rules.registry app (NativeRow.ofLibrary rules.registry app record) := by
  have habout := about_of_examine h
  rw [NativeRow.ofLibrary_eq habout]
  split
  · rename_i he
    exact habout.toldBy_allShown app he
  · rename_i he
    exact LibraryRecord.About.toldBy_bare app (Bool.eq_false_iff.2 he)

namespace Native

def smallWords (ns : List UInt8) : List UInt8 :=
  ns.flatMap fun n => [n, 0, 0, 0]

/-- A library with the symbol `aes_enc` and two bytes of read-only data. -/
def twoFinds : Library where
  path := "lib/libtwo.so"
  data :=
    let header : List UInt8 := [0x7f, 0x45, 0x4c, 0x46, 1, 1, 1] ++ .replicate 9 0 ++ [3, 0, 40, 0] ++
      smallWords [1, 0, 0, 103, 0] ++ [52, 0, 0, 0, 0, 0, 40, 0, 4, 0, 1, 0]
    let names : List UInt8 := [0, 0x61, 0x65, 0x73, 0x5f, 0x65, 0x6e, 0x63, 0,
      0x2e, 0x72, 0x6f, 0x64, 0x61, 0x74, 0x61, 0]
    let symbols : List UInt8 := .replicate 16 0 ++ smallWords [1, 0, 0] ++ [18, 0, 1, 0]
    let sections := smallWords [0, 0, 0, 0, 0, 0, 0, 0, 1, 0] ++
      smallWords [0, 3, 0, 0, 52, 17, 0, 0, 1, 0] ++ smallWords [0, 2, 0, 0, 69, 32, 1, 0, 1, 16] ++
      smallWords [9, 1, 0, 0, 101, 2, 0, 0, 1, 0]
    ⟨(header ++ names ++ symbols ++ [0xd6, 0x90] ++ sections).toArray⟩

theorem toldBy_ofLibrary_twoFinds :
    ∃ record, examine ⟨Managed.twoAlgorithms, {}, [".rodata"], ∅⟩
        (.ofRegistry Managed.twoAlgorithms {}) twoFinds = .ok record ∧
      (NativeRow.ofLibrary Managed.twoAlgorithms "app.apk" record).map
          (fun row => (row.algorithm?, row.symbols, row.constants.flagged)) =
        [(some "sm4", [], ["sbox"]), (some "aes", ["aes_enc"], [])] ∧
      record.ToldBy Managed.twoAlgorithms "app.apk"
        (NativeRow.ofLibrary Managed.twoAlgorithms "app.apk" record) := by
  have hok : examine ⟨Managed.twoAlgorithms, {}, [".rodata"], ∅⟩
      (.ofRegistry Managed.twoAlgorithms {}) twoFinds =
      .ok ⟨"libtwo.so", "lib/libtwo.so", .ofList [("sm4", []), ("aes", ["aes_enc"])],
        .ofList [("sbox", true)], false⟩ := by
    decide +kernel
  exact ⟨_, hok, by decide +kernel, toldBy_ofLibrary ⟨Managed.twoAlgorithms, {}, [".rodata"], ∅⟩
    (.ofRegistry Managed.twoAlgorithms {}) twoFinds _ hok "app.apk"⟩

end Native

end CryptoSurvey
