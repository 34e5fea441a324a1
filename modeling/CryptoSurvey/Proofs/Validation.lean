import CryptoSurvey.Proofs.Constants
import CryptoSurvey.Rules.RuleSet
import Mathlib.Data.List.Dedup
import Mathlib.Data.List.TakeWhile

namespace CryptoSurvey

theorem Text.isBlankText_iff {s : String} : isBlankText s = true ↔ trim s = "" := by
  have htrim : trim s = "" ↔ ∀ c ∈ s.toList.dropWhile isBlank, isBlank c = true := by
    rw [trim, String.ofList_eq_empty_iff, List.reverse_eq_nil_iff, List.dropWhile_eq_nil_iff]
    simp only [List.mem_reverse]
  rw [htrim, isBlankText, List.all_eq_true, ← List.dropWhile_eq_nil_iff]
  constructor
  · intro hnil c hc
    rw [hnil] at hc
    cases hc
  · intro hall
    by_contra hne
    have hhead := List.head_dropWhile_not isBlank hne
    rw [hall _ (List.head_mem hne)] at hhead
    cases hhead

/-- What validation looks at, one after the other. -/
inductive RegistryEntry where
  | name (algorithm : String)
  | aliasOf (algorithm pattern : String)
  | constant (c : Constant)

namespace RegistryEntry

def pattern? : RegistryEntry → Option String
  | .name p | .aliasOf _ p => some p
  | .constant _ => none

def constantName? : RegistryEntry → Option String
  | .constant c => some c.name
  | _ => none

def ofAlgorithm (a : Algorithm) : List RegistryEntry :=
  [.name a.name] ++ a.aliases.map (.aliasOf a.name) ++ a.constants.map .constant

def fault? (before : List RegistryEntry) : RegistryEntry → Option RegistryFault
  | .name p =>
    if Text.trim p = "" then some .emptyName
    else if p ∈ before.filterMap pattern? then some (.repeatedName p)
    else none
  | .aliasOf a p =>
    if Text.trim p = "" then some (.emptyAlias a)
    else if p ∈ before.filterMap pattern? then some (.repeatedName p)
    else none
  | .constant c =>
    if c.bytes = [] then some (.emptyConstant c.name)
    else if c.name ∈ before.filterMap constantName? then some (.repeatedConstant c.name)
    else none

/-- No entry has a fault. -/
def Clean (before entries : List RegistryEntry) : Prop :=
  ∀ start e rest, entries = start ++ e :: rest → fault? (before ++ start) e = none

/-- The fault is that of the first entry that has one. -/
def FirstFault (before entries : List RegistryEntry) (fault : RegistryFault) : Prop :=
  ∃ start e rest, entries = start ++ e :: rest ∧ Clean before start ∧
    fault? (before ++ start) e = some fault

inductive Finds (before entries : List RegistryEntry) : Option RegistryFault → Prop
  | clean : Clean before entries → Finds before entries none
  | fault {fault : RegistryFault} : FirstFault before entries fault → Finds before entries (some fault)

section Finds

variable {before entries more : List RegistryEntry} {e : RegistryEntry} {fault : RegistryFault}
  {found found' : Option RegistryFault}

theorem split_append {start rest : List RegistryEntry} (h : entries ++ more = start ++ e :: rest) :
    (∃ rest', entries = start ++ e :: rest') ∨
      ∃ start', start = entries ++ start' ∧ more = start' ++ e :: rest := by
  rcases List.append_eq_append_iff.1 h with ⟨start', hstart, hmore⟩ | ⟨rest', hentries, hrest⟩
  · exact .inr ⟨start', hstart, hmore⟩
  · rcases List.cons_eq_append_iff.1 hrest with ⟨rfl, hmore⟩ | ⟨rest', rfl, _⟩
    · exact .inr ⟨[], by simpa using hentries.symm, hmore⟩
    · exact .inl ⟨rest', hentries⟩

theorem clean_nil : Clean before [] := by
  intro start e rest h
  cases start <;> cases h

theorem Clean.append (h : Clean before entries) (hmore : Clean (before ++ entries) more) :
    Clean before (entries ++ more) := by
  intro start e rest hsplit
  rcases split_append hsplit with ⟨rest', hentries⟩ | ⟨start', rfl, hrest⟩
  · exact h start e rest' hentries
  · rw [← List.append_assoc]
    exact hmore start' e rest hrest

theorem Finds.append (h : Finds before entries found) (hmore : Finds (before ++ entries) more found') :
    Finds before (entries ++ more) (found.or found') := by
  cases h with
  | fault h =>
    obtain ⟨start, e, rest, rfl, hstart, hfault⟩ := h
    exact .fault ⟨start, e, rest ++ more, by simp, hstart, hfault⟩
  | clean h =>
    cases hmore with
    | clean hmore => exact .clean (h.append hmore)
    | fault hmore =>
      obtain ⟨start, e, rest, rfl, hstart, hfault⟩ := hmore
      rw [List.append_assoc] at hfault
      exact .fault ⟨entries ++ start, e, rest, (List.append_assoc ..).symm, h.append hstart, hfault⟩

theorem finds_singleton (before : List RegistryEntry) (e : RegistryEntry) :
    Finds before [e] (fault? before e) := by
  cases hfault : fault? before e with
  | some fault => exact .fault ⟨[], e, [], rfl, clean_nil, by simpa using hfault⟩
  | none =>
    apply Finds.clean
    intro start e' rest hsplit
    rcases List.cons_eq_append_iff.1 hsplit with ⟨rfl, hrest⟩ | ⟨_, rfl, hnil⟩
    · cases hrest
      simpa using hfault
    · simp at hnil

theorem Finds.cons (h : Finds (before ++ [e]) entries found) :
    Finds before (e :: entries) ((fault? before e).or found) :=
  (finds_singleton before e).append h

theorem FirstFault.unique {fault' : RegistryFault} (h : FirstFault before entries fault)
    (h' : FirstFault before entries fault') : fault = fault' := by
  obtain ⟨start, e, rest, rfl, hclean, hfault⟩ := h
  obtain ⟨start', e', rest', hsplit, hclean', hfault'⟩ := h'
  rcases split_append hsplit with ⟨_, hstart⟩ | ⟨between, rfl, hrest⟩
  · rw [hclean start' e' _ hstart] at hfault'
    cases hfault'
  · rcases List.cons_eq_append_iff.1 hrest with ⟨rfl, hrest⟩ | ⟨_, rfl, _⟩
    · cases hrest
      rw [List.append_nil, hfault] at hfault'
      exact Option.some.inj hfault'
    · rw [hclean' start e _ rfl] at hfault
      cases hfault

theorem Finds.eq_some_iff (h : Finds before entries found) :
    found = some fault ↔ FirstFault before entries fault := by
  cases h with
  | clean h =>
    constructor
    · intro hnone
      cases hnone
    · rintro ⟨start, e, rest, hsplit, _, hfault⟩
      rw [h start e rest hsplit] at hfault
      cases hfault
  | fault h =>
    constructor
    · intro hsome
      cases hsome
      exact h
    · intro hfirst
      rw [hfirst.unique h]

end Finds

theorem patterns_ofAlgorithm (a : Algorithm) : (ofAlgorithm a).filterMap pattern? = a.patterns := by
  have haliases : (a.aliases.map (aliasOf a.name)).filterMap pattern? = a.aliases := by
    rw [List.filterMap_map]
    exact List.filterMap_some
  have hconstants : (a.constants.map constant).filterMap pattern? = [] := by
    simp [List.filterMap_map, pattern?]
  rw [ofAlgorithm, List.filterMap_append, List.filterMap_append, haliases, hconstants]
  simp [pattern?, Algorithm.patterns]

theorem constants_ofAlgorithm (a : Algorithm) :
    (ofAlgorithm a).filterMap constantName? = a.constants.map (·.name) := by
  have haliases : (a.aliases.map (aliasOf a.name)).filterMap constantName? = [] := by
    simp [List.filterMap_map, constantName?]
  have hconstants : (a.constants.map constant).filterMap constantName? = a.constants.map (·.name) := by
    rw [List.filterMap_map]
    exact congrFun List.filterMap_eq_map a.constants
  rw [ofAlgorithm, List.filterMap_append, List.filterMap_append, haliases, hconstants]
  simp [constantName?]

section Validation

open RegistryFault

variable {before : List RegistryEntry} {seen patterns constants : List String}

theorem finds_ofPatterns? (algorithm : String) (aliases : List String)
    (hseen : ∀ p, p ∈ seen ↔ p ∈ before.filterMap pattern?) :
    Finds before (aliases.map (aliasOf algorithm)) (ofPatterns? algorithm seen aliases) := by
  -- `hseen` is the invariant: what the check remembers is what the entries before name
  induction aliases generalizing before seen with
  | nil => exact .clean clean_nil
  | cons p rest ih =>
    have hstep : ofPatterns? algorithm seen (p :: rest) =
        (fault? before (aliasOf algorithm p)).or (ofPatterns? algorithm (p :: seen) rest) := by
      rw [ofPatterns?, fault?]
      simp only [Text.isBlankText_iff, List.contains_iff_mem, hseen]
      split
      · rfl
      · split <;> rfl
    have hseen' : ∀ q, q ∈ p :: seen ↔ q ∈ (before ++ [aliasOf algorithm p]).filterMap pattern? := by
      intro q
      simp [hseen, pattern?, or_comm]
    rw [hstep, List.map_cons]
    exact (ih hseen').cons

theorem finds_ofConstants? (own : List Constant)
    (hseen : ∀ k, k ∈ seen ↔ k ∈ before.filterMap constantName?) :
    Finds before (own.map constant) (ofConstants? seen own) := by
  induction own generalizing before seen with
  | nil => exact .clean clean_nil
  | cons c rest ih =>
    have hstep : ofConstants? seen (c :: rest) =
        (fault? before (constant c)).or (ofConstants? (c.name :: seen) rest) := by
      rw [ofConstants?, fault?]
      simp only [List.isEmpty_iff, List.contains_iff_mem, hseen]
      split
      · rfl
      · split <;> rfl
    have hseen' : ∀ k, k ∈ c.name :: seen ↔ k ∈ (before ++ [constant c]).filterMap constantName? := by
      intro k
      simp [hseen, constantName?, or_comm]
    rw [hstep, List.map_cons]
    exact (ih hseen').cons

theorem finds_ofAlgorithm? (a : Algorithm)
    (hpatterns : ∀ p, p ∈ patterns ↔ p ∈ before.filterMap pattern?)
    (hconstants : ∀ k, k ∈ constants ↔ k ∈ before.filterMap constantName?) :
    Finds before (ofAlgorithm a) (ofAlgorithm? patterns constants a) := by
  -- the name is checked as the first of the patterns, but for a fault of its own if it is empty
  have hstep : ofAlgorithm? patterns constants a =
      ((fault? before (name a.name)).or (ofPatterns? a.name (a.name :: patterns) a.aliases)).or
        (ofConstants? constants a.constants) := by
    rw [ofAlgorithm?, fault?, Algorithm.patterns, ofPatterns?]
    simp only [Text.isBlankText_iff, List.contains_iff_mem, hpatterns]
    split
    · rfl
    · split <;> rfl
  have hpatterns' : ∀ p, p ∈ a.name :: patterns ↔
      p ∈ (before ++ [name a.name]).filterMap pattern? := by
    intro p
    simp [hpatterns, pattern?, or_comm]
  have hconstants' : ∀ k, k ∈ constants ↔ k ∈ (before ++ ([name a.name] ++
      a.aliases.map (aliasOf a.name))).filterMap constantName? := by
    intro k
    rw [hconstants]
    simp [constantName?]
  have hnames := (finds_singleton before (name a.name)).append
    (finds_ofPatterns? a.name a.aliases hpatterns')
  rw [hstep, ofAlgorithm]
  exact hnames.append (finds_ofConstants? a.constants hconstants')

theorem finds_first? (algorithms : List Algorithm)
    (hpatterns : ∀ p, p ∈ patterns ↔ p ∈ before.filterMap pattern?)
    (hconstants : ∀ k, k ∈ constants ↔ k ∈ before.filterMap constantName?) :
    Finds before (algorithms.flatMap ofAlgorithm) (first? patterns constants algorithms) := by
  induction algorithms generalizing before patterns constants with
  | nil => exact .clean clean_nil
  | cons a rest ih =>
    have hpatterns' : ∀ p, p ∈ a.patterns ++ patterns ↔
        p ∈ (before ++ ofAlgorithm a).filterMap pattern? := by
      intro p
      rw [List.filterMap_append, patterns_ofAlgorithm, List.mem_append, List.mem_append, hpatterns,
        or_comm]
    have hconstants' : ∀ k, k ∈ a.constants.map (·.name) ++ constants ↔
        k ∈ (before ++ ofAlgorithm a).filterMap constantName? := by
      intro k
      rw [List.filterMap_append, constants_ofAlgorithm, List.mem_append, List.mem_append, hconstants,
        or_comm]
    rw [first?, List.flatMap_cons]
    exact (finds_ofAlgorithm? a hpatterns hconstants).append (ih hpatterns' hconstants')

end Validation

end RegistryEntry

namespace Registry

/-- The rules that a list of algorithms has to keep. -/
structure Acceptable (algorithms : List Algorithm) : Prop where
  patterns : ∀ a ∈ algorithms, ∀ p ∈ a.patterns, Text.trim p ≠ ""
  distinctPatterns : (algorithms.flatMap (·.patterns)).Nodup
  constants : ∀ a ∈ algorithms, ∀ c ∈ a.constants, c.bytes ≠ []
  distinctConstants : (algorithms.flatMap fun a => a.constants.map (·.name)).Nodup

/-- What can be looked up in a registry is settled by names. -/
structure Indexed (r : Registry) : Prop where
  priority? : ∀ name i, r.priority? name = some i ↔ ∃ a, r.algorithms[i]? = some a ∧ a.name = name
  get? : ∀ name, r.get? name = (r.priority? name).bind (r.algorithms[·]?)
  owners : ∀ a ∈ r.algorithms, ∀ c ∈ a.constants, r.owners c.name = [a]
  constantCount : (r.constants.map (·.2.name)).dedup.length = r.constantCount

theorem acceptable_iff {algorithms : List Algorithm} :
    Acceptable algorithms ↔ RegistryFault.first? [] [] algorithms = none := by
  have hunseen (l : List String) : Unseen [] l ↔ l.Nodup := by simp [Unseen]
  have hblank (p : String) : Text.isBlankText p = false ↔ Text.trim p ≠ "" := by
    rw [← Bool.not_eq_true, Text.isBlankText_iff]
  rw [RegistryFault.first?_eq_none_iff, hunseen, hunseen]
  simp only [RegistryFault.Filled, hblank]
  constructor
  · rintro ⟨hpatterns, hdistinct, hconstants, hnames⟩
    exact ⟨fun a ha => ⟨hpatterns a ha, hconstants a ha⟩, hdistinct, hnames⟩
  · rintro ⟨hfilled, hdistinct, hnames⟩
    exact ⟨fun a ha => (hfilled a ha).1, hdistinct, fun a ha => (hfilled a ha).2, hnames⟩

theorem read_eq_ok_iff {algorithms : List Algorithm} {r : Registry} :
    read algorithms = .ok r ↔ r.algorithms = algorithms := by
  constructor
  · intro h
    rw [read] at h
    split at h
    · rename_i hr
      cases h
      exact algorithms_of_ofAlgorithms hr
    · cases h
  · rintro rfl
    rw [read, ofAlgorithms_algorithms]

theorem ofAlgorithms_eq_error_iff {algorithms : List Algorithm} {fault : RegistryFault} :
    ofAlgorithms algorithms = .error fault ↔
      RegistryFault.first? [] [] algorithms = some fault := by
  rw [ofAlgorithms]
  split
  · simp [*]
  · simp [*]

theorem read_eq_error_iff {algorithms : List Algorithm} {e : RulesError} :
    read algorithms = .error e ↔
      ∃ fault, RegistryFault.first? [] [] algorithms = some fault ∧ fault.error = e := by
  simp only [← ofAlgorithms_eq_error_iff, read]
  cases ofAlgorithms algorithms with
  | ok r => simp
  | error fault => simp

theorem get?_eq_bind (r : Registry) (name : String) :
    r.get? name = (r.priority? name).bind (r.algorithms[·]?) := by
  apply Option.ext
  intro a
  rw [get?_eq_some_iff, Option.bind_eq_some_iff]
  constructor
  · rintro ⟨ha, rfl⟩
    obtain ⟨i, hi⟩ := List.mem_iff_getElem?.1 ha
    exact ⟨i, priority?_eq_some_iff.2 ⟨a, hi, rfl⟩, hi⟩
  · rintro ⟨i, hpriority, hi⟩
    obtain ⟨b, hb, rfl⟩ := priority?_eq_some_iff.1 hpriority
    rw [hi] at hb
    cases hb
    exact ⟨List.mem_of_getElem? hi, rfl⟩

theorem owners_eq (r : Registry) {a : Algorithm} {c : Constant} (ha : a ∈ r.algorithms)
    (hc : c ∈ a.constants) : r.owners c.name = [a] := by
  have howns (b : Algorithm) (hb : b ∈ r.algorithms) :
      (b.constant? c.name).isSome = true ↔ b = a := by
    rw [Algorithm.constant?, List.find?_isSome]
    constructor
    · rintro ⟨d, hd, hname⟩
      exact (eq_of_constantName_eq hb hd ha hc (beq_iff_eq.1 hname)).1
    · rintro rfl
      exact ⟨c, hc, beq_self_eq_true c.name⟩
  have hmem (b : Algorithm) : b ∈ r.owners c.name ↔ b ∈ [a] := by
    rw [owners, List.mem_filter, List.mem_singleton]
    constructor
    · rintro ⟨hb, hown⟩
      exact (howns b hb).1 hown
    · rintro rfl
      exact ⟨ha, (howns b ha).2 rfl⟩
  have hnodup : (r.owners c.name).Nodup := r.nodup_names.of_map.filter _
  have hperm := (List.perm_ext_iff_of_nodup hnodup (List.nodup_singleton a)).2 hmem
  exact List.perm_singleton.1 hperm

theorem indexed (r : Registry) : r.Indexed where
  priority? _ _ := priority?_eq_some_iff
  get? := r.get?_eq_bind
  owners _ ha _ hc := r.owners_eq ha hc
  constantCount := by
    rw [r.nodup_constantNames.dedup, List.length_map, constantCount]

/-- A list of algorithms is accepted if it keeps the rules, and otherwise refused with the fault of the
first entry that has one. In an accepted one, names settle every look-up. -/
theorem read_exact (algorithms : List Algorithm) :
    ((∃ r, read algorithms = .ok r) ↔ Acceptable algorithms) ∧
      (∀ e, read algorithms = .error e ↔ ∃ fault,
        RegistryEntry.FirstFault [] (algorithms.flatMap RegistryEntry.ofAlgorithm) fault ∧
          fault.error = e) ∧
      ∀ r, read algorithms = .ok r → r.algorithms = algorithms ∧ r.Indexed := by
  refine ⟨?_, ?_, ?_⟩
  · rw [acceptable_iff]
    constructor
    · rintro ⟨r, hr⟩
      rw [← read_eq_ok_iff.1 hr]
      exact r.faultless
    · intro hnone
      exact ⟨⟨algorithms, hnone⟩, read_eq_ok_iff.2 rfl⟩
  · intro e
    have hfinds : RegistryEntry.Finds [] (algorithms.flatMap RegistryEntry.ofAlgorithm)
        (RegistryFault.first? [] [] algorithms) := by
      apply RegistryEntry.finds_first?
      · simp
      · simp
    rw [read_eq_error_iff]
    simp only [hfinds.eq_some_iff]
  · intro r hr
    exact ⟨read_eq_ok_iff.1 hr, r.indexed⟩

theorem read_exact_sharedAlias :
    (∃ fault, RegistryEntry.FirstFault []
        ([⟨"sm4", [], []⟩, ⟨"sms4", ["sm4", " "], [⟨"key", []⟩]⟩].flatMap RegistryEntry.ofAlgorithm)
        fault ∧ fault.error = .invalidRegistry "name 'sm4' registered more than once") ∧
      ∃ r, read [⟨"sm4", ["sms4"], [⟨"key", [0xa3]⟩]⟩, ⟨"aes", [], []⟩] = .ok r ∧ r.Indexed := by
  have hrefused : read [⟨"sm4", [], []⟩, ⟨"sms4", ["sm4", " "], [⟨"key", []⟩]⟩] =
      .error (.invalidRegistry "name 'sm4' registered more than once") :=
    read_eq_error_iff.2 ⟨.repeatedName "sm4", by decide +kernel, by decide +kernel⟩
  have hacceptable : Acceptable [⟨"sm4", ["sms4"], [⟨"key", [0xa3]⟩]⟩, ⟨"aes", [], []⟩] :=
    acceptable_iff.2 (by decide +kernel)
  obtain ⟨_, hfault, _⟩ := read_exact [⟨"sm4", [], []⟩, ⟨"sms4", ["sm4", " "], [⟨"key", []⟩]⟩]
  obtain ⟨hok, _, hindexed⟩ := read_exact [⟨"sm4", ["sms4"], [⟨"key", [0xa3]⟩]⟩, ⟨"aes", [], []⟩]
  obtain ⟨r, hr⟩ := hok.2 hacceptable
  exact ⟨(hfault _).1 hrefused, r, hr, (hindexed r hr).2⟩

end Registry

end CryptoSurvey
