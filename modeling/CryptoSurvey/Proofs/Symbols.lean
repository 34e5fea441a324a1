import CryptoSurvey.Proofs.Failure
import CryptoSurvey.Proofs.NativeRows
import Mathlib.Data.List.Induction

namespace CryptoSurvey

namespace Image

/-- The non-empty names in a table of symbols, each once and in the order in which they first occur. -/
structure FirstNames (table : List (Option String)) (names : List String) : Prop where
  mem_iff : ∀ s, s ∈ names ↔ s ≠ "" ∧ some s ∈ table
  ordered : names.Pairwise fun s t => table.idxOf (some s) < table.idxOf (some t)

section Concat

variable {table : List (Option String)} {names : List String} {entry : Option String} {s : String}

theorem namesIn_concat_of_new (hne : s ≠ "") (hnew : some s ∉ table) :
    namesIn (table ++ [some s]) = namesIn table ++ [s] := by
  have hlast : ([some s].filterMap fun s? => s?.filter (!·.isEmpty)) = [s] := by
    simp [Option.filter, hne]
  have hremove : [s].removeAll (table.filterMap fun s? => s?.filter (!·.isEmpty)) = [s] := by
    simp [List.removeAll, hnew]
  rw [namesIn, List.filterMap_append, hlast, List.eraseDups_append, hremove, ← namesIn]
  rfl

theorem namesIn_concat_of_old (hold : ∀ s, entry = some s → s ≠ "" → some s ∈ table) :
    namesIn (table ++ [entry]) = namesIn table := by
  have hremove : ([entry].filterMap fun s? => s?.filter (!·.isEmpty)).removeAll
      (table.filterMap fun s? => s?.filter (!·.isEmpty)) = [] := by
    rw [List.removeAll, List.filter_eq_nil_iff]
    intro s hs
    obtain ⟨s?, hs?, hs⟩ := List.mem_filterMap.1 hs
    obtain ⟨rfl, hne⟩ := Option.filter_eq_some_iff.1 hs
    have hmem := hold s (List.mem_singleton.1 hs?).symm (by simpa using hne)
    have hseen : s ∈ table.filterMap fun s? => s?.filter (!·.isEmpty) :=
      List.mem_filterMap.2 ⟨some s, hmem, hs⟩
    simpa using hseen
  rw [namesIn, List.filterMap_append, List.eraseDups_append, hremove, List.eraseDups_nil,
    List.append_nil, namesIn]

theorem FirstNames.idxOf_concat (h : FirstNames table names) (hs : s ∈ names)
    (entry : Option String) : (table ++ [entry]).idxOf (some s) = table.idxOf (some s) := by
  rw [List.idxOf_append, if_pos ((h.mem_iff s).1 hs).2]

theorem FirstNames.pairwise_concat (h : FirstNames table names) (entry : Option String) :
    names.Pairwise fun s t =>
      (table ++ [entry]).idxOf (some s) < (table ++ [entry]).idxOf (some t) := by
  refine h.ordered.imp_of_mem ?_
  intro s t hs ht hlt
  rw [h.idxOf_concat hs, h.idxOf_concat ht]
  exact hlt

theorem FirstNames.concat_new (h : FirstNames table names) (hne : s ≠ "") (hnew : some s ∉ table) :
    FirstNames (table ++ [some s]) (names ++ [s]) where
  mem_iff := by
    intro t
    rw [List.mem_append, List.mem_append, h.mem_iff, List.mem_singleton, List.mem_singleton,
      Option.some.injEq]
    constructor
    · rintro (⟨ht, hmem⟩ | rfl)
      · exact ⟨ht, .inl hmem⟩
      · exact ⟨hne, .inr rfl⟩
    · rintro ⟨ht, hmem | rfl⟩
      · exact .inl ⟨ht, hmem⟩
      · exact .inr rfl
  ordered := by
    rw [List.pairwise_append]
    refine ⟨h.pairwise_concat (some s), List.pairwise_singleton _ _, ?_⟩
    intro t ht u hu
    have htable : some t ∈ table := ((h.mem_iff t).1 ht).2
    rw [List.mem_singleton.1 hu, h.idxOf_concat ht, List.idxOf_append, if_neg hnew]
    exact Nat.lt_add_left _ (List.idxOf_lt_length_of_mem htable)

theorem FirstNames.concat_old (h : FirstNames table names)
    (hold : ∀ s, entry = some s → s ≠ "" → some s ∈ table) :
    FirstNames (table ++ [entry]) names where
  mem_iff := by
    intro s
    rw [h.mem_iff, List.mem_append, List.mem_singleton]
    constructor
    · rintro ⟨hne, hmem⟩
      exact ⟨hne, .inl hmem⟩
    · rintro ⟨hne, hmem | hs⟩
      · exact ⟨hne, hmem⟩
      · exact ⟨hne, hold s hs.symm hne⟩
  ordered := h.pairwise_concat entry

end Concat

theorem firstNames_namesIn (table : List (Option String)) : FirstNames table (namesIn table) := by
  -- from the end of the table, as a name is listed when it is met and not again
  induction table using List.reverseRecOn with
  | nil => exact ⟨fun s => by simp [namesIn], List.Pairwise.nil⟩
  | append_singleton table entry ih =>
    by_cases hold : ∀ s, entry = some s → s ≠ "" → some s ∈ table
    · rw [namesIn_concat_of_old hold]
      exact ih.concat_old hold
    · push Not at hold
      obtain ⟨s, rfl, hne, hnew⟩ := hold
      rw [namesIn_concat_of_new hne hnew]
      exact ih.concat_new hne hnew

end Image

namespace Native

/-- The lists divide symbols among the registered algorithms. -/
structure Divides (registry : Registry) (m : Matcher) (symbols : List String)
    (lists : OrderedMap String (List String)) : Prop where
  keys : lists.keys.Perm (registry.algorithms.map (·.name))
  own : ∀ a ∈ registry.algorithms, lists.get? a.name =
    some (symbols.filter fun s => m.algorithm? s .identifier == some a.name)
  /-- In all the lists together. -/
  count : ∀ s, lists.values.flatten.count s =
    if s ∈ symbols ∧ (m.algorithm? s .identifier).isSome then 1 else 0

theorem examine_of_parse {rules : RuleSet} {m : Matcher} {l : Library} {image : Image}
    (h : Image.parse l.data = .ok image) :
    ∃ record, examine rules m l = .ok record ∧
      record.symbols = symbolsByAlgorithm rules.registry m image.symbols ∧
      record.constants = Signature.scan rules.regions image.region? rules.registry := by
  rw [examine, h]
  exact ⟨_, rfl, rfl, rfl⟩

section Divides

variable {registry : Registry} {m : Matcher} {symbols : List String} {record : LibraryRecord}
variable (hsymbols : record.symbols = symbolsByAlgorithm registry m symbols)
include hsymbols

/-- A symbol is filed if the algorithm that it is attributed to has a list, which every algorithm has
that the matcher can tell. -/
theorem mem_filed (hm : ∀ s a, m.algorithm? s .identifier = some a → registry.Names a) {s : String} :
    s ∈ record.symbols.values.flatten ↔
      s ∈ symbols ∧ (m.algorithm? s .identifier).isSome := by
  rw [LibraryRecord.mem_symbols, hsymbols]
  constructor
  · rintro ⟨name, own, hown, hs⟩
    obtain ⟨_, rfl⟩ := get?_symbolsByAlgorithm.1 hown
    obtain ⟨hmem, hname⟩ := List.mem_filter.1 hs
    rw [beq_iff_eq.1 hname]
    exact ⟨hmem, rfl⟩
  · rintro ⟨hmem, hsome⟩
    obtain ⟨name, hname⟩ := Option.isSome_iff_exists.1 hsome
    refine ⟨name, _, get?_symbolsByAlgorithm.2 ⟨hm s name hname, rfl⟩, ?_⟩
    exact List.mem_filter.2 ⟨hmem, beq_iff_eq.2 hname⟩

theorem divides_of_about (hm : ∀ s a, m.algorithm? s .identifier = some a → registry.Names a)
    (habout : record.About registry) : Divides registry m symbols record.symbols where
  keys := by
    apply OrderedMap.keys_perm registry.nodup_names
    intro name
    rw [habout.algorithms name, List.mem_map]
    rfl
  own := by
    intro a ha
    rw [hsymbols]
    exact get?_symbolsByAlgorithm.2 ⟨⟨a, ha, rfl⟩, rfl⟩
  count := by
    intro s
    have hmem := mem_filed hsymbols hm (s := s)
    split
    · rename_i hs
      exact List.count_eq_one_of_mem habout.nodup_symbols (hmem.2 hs)
    · rename_i hs
      exact List.count_eq_zero.2 (mt hmem.1 hs)

end Divides

/-- The symbols of a library are the names in its tables, static before dynamic, and its record divides
them among the registered algorithms. -/
theorem examine_symbols (rules : RuleSet) (exclusions : Exclusions) (l : Library) (image : Image)
    (h : Image.parse l.data = .ok image) :
    Image.FirstNames (image.staticSymbols ++ image.dynamicSymbols) image.symbols ∧
      ∃ record, examine rules (.ofRegistry rules.registry exclusions) l = .ok record ∧
        Divides rules.registry (.ofRegistry rules.registry exclusions) image.symbols
          record.symbols := by
  obtain ⟨record, hrecord, hsymbols, _⟩ := examine_of_parse h
  refine ⟨Image.firstNames_namesIn _, record, hrecord, ?_⟩
  apply divides_of_about hsymbols
  · intro s a hs
    exact Matcher.names_of_algorithm? hs
  · exact about_of_examine hrecord

/-- A file of 32-bit words in which the given bytes follow the header. Each section is given by the ten
words of its header. -/
def plainFile (bytes : List UInt8) (sections : List (List UInt8)) : ByteArray :=
  let header : List UInt8 := [0x7f, 0x45, 0x4c, 0x46, 1, 1, 1] ++ .replicate 9 0 ++ [3, 0, 40, 0] ++
    smallWords [1, 0, 0, 52 + bytes.length.toUInt8, 0] ++
    [52, 0, 0, 0, 0, 0, 40, 0, sections.length.toUInt8 + 1, 0, 1, 0]
  ⟨(header ++ bytes ++ .replicate 40 0 ++ sections.flatMap smallWords).toArray⟩

/-- A table of symbols with the given places of their names. -/
def symbolTable (names : List UInt8) : List UInt8 :=
  names.flatMap fun name => smallWords [name, 0, 0] ++ [18, 0, 1, 0]

def symbolNames : List UInt8 :=
  "\x00aes_enc\x00main\x00sm4_run\x00".toUTF8.data.toList

/-- A library that names `aes_enc` in both tables. Its static table also has an entry with an empty
name and one whose name lies outside the file. -/
def bothTables : Library where
  path := "lib/libtables.so"
  data := plainFile (symbolNames ++ symbolTable [0, 1, 0, 200, 9, 1] ++ symbolTable [0, 14, 1])
    [[0, 3, 0, 0, 52, 22, 0, 0, 1, 0], [0, 2, 0, 0, 74, 96, 1, 0, 1, 16],
      [0, 11, 0, 0, 170, 48, 1, 0, 1, 16]]

theorem examine_symbols_bothTables :
    ∃ image, Image.parse bothTables.data = .ok image ∧
      image.symbols = ["aes_enc", "main", "sm4_run"] ∧
      Image.FirstNames (image.staticSymbols ++ image.dynamicSymbols) image.symbols ∧
      ∃ record, examine ⟨Managed.twoAlgorithms, {}, [], ∅⟩ (.ofRegistry Managed.twoAlgorithms {})
          bothTables = .ok record ∧
        Divides Managed.twoAlgorithms (.ofRegistry Managed.twoAlgorithms {}) image.symbols
          record.symbols := by
  have hsymbols : (Image.parse bothTables.data).map (·.symbols) =
      .ok ["aes_enc", "main", "sm4_run"] := by
    decide +kernel
  obtain ⟨image, hparse, hsymbols⟩ := exists_of_map_eq_ok hsymbols
  exact ⟨image, hparse, hsymbols,
    examine_symbols ⟨Managed.twoAlgorithms, {}, [], ∅⟩ {} bothTables image hparse⟩

end Native

end CryptoSurvey
