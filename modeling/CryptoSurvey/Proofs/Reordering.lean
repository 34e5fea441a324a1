import CryptoSurvey.Proofs.Marks
import CryptoSurvey.Proofs.Passes

namespace CryptoSurvey

namespace ClassRecord

theorem Unlabelled.unlabelled_eq {c : ClassRecord} (h : c.Unlabelled) : c.unlabelled = c := by
  have hm : c.unlabelled.methods = c.methods := by
    apply OrderedMap.ext_get?
    intro n
    rw [get?_unlabelled]
    cases hr : c.methods.get? n with
    | none => rfl
    | some r =>
      have hnone := h.2 n r hr
      cases r
      cases hnone
      rfl
  rw [ClassRecord.mk.injEq]
  exact ⟨rfl, rfl, hm, h.1.symm⟩

theorem unlabelled_forgetExternal (c : ClassRecord) :
    c.forgetExternal.unlabelled = c.unlabelled.forgetExternal := by
  have hm : c.forgetExternal.unlabelled.methods = c.unlabelled.forgetExternal.methods := by
    apply OrderedMap.ext_get?
    intro n
    rw [get?_unlabelled, get?_forgetExternal, get?_forgetExternal, get?_unlabelled, Option.map_map,
      Option.map_map]
    rfl
  exact congrArg (ClassRecord.mk c.name c.evidence · none) hm

end ClassRecord

namespace ClassTable

def unlabelled (t : ClassTable) : ClassTable :=
  t.map fun _ c => c.unlabelled

theorem get?_unlabelled {t : ClassTable} {name : String} :
    t.unlabelled.get? name = (t.get? name).map ClassRecord.unlabelled :=
  OrderedMap.get?_map _ _ _

theorem unlabelled_forgetExternal (t : ClassTable) :
    t.forgetExternal.unlabelled = t.unlabelled.forgetExternal := by
  apply OrderedMap.ext_get?
  intro name
  rw [get?_unlabelled, get?_forgetExternal, get?_forgetExternal, get?_unlabelled, Option.map_map,
    Option.map_map]
  exact congrArg (Option.map · _) (funext ClassRecord.unlabelled_forgetExternal)

end ClassTable

namespace Managed

def Unlabelled (t : ClassTable) : Prop :=
  ∀ name c, t.get? name = some c → c.Unlabelled

section Unlabelled

variable {registry : Registry} {m : Matcher} {t : ClassTable}

theorem unlabelled_classRecord {c : CodeClass} : (classRecord registry m c).Unlabelled := by
  refine List.foldlRecOn c.methods (takeMethod registry m) ?_ ?_
  · rw [ClassRecord.foldl_add]
    refine ⟨rfl, ?_⟩
    intro n r hr
    cases hr
  · intro r hr k _
    rw [takeMethod]
    split
    · exact hr
    · exact hr.addToMethod _ _ _

theorem Unlabelled.takeClass (ht : Unlabelled t) {c : CodeClass} :
    Unlabelled (takeClass registry m t c) := by
  rw [Managed.takeClass]
  split
  · intro name d hd
    by_cases hn : (classRecord registry m c).name = name
    · subst hn
      rw [ClassTable.get?_take_self] at hd
      cases hg : t.get? (classRecord registry m c).name with
      | none =>
        rw [hg, Option.merge_none_left, Option.some.injEq] at hd
        exact hd ▸ unlabelled_classRecord
      | some b =>
        rw [hg, Option.merge_some_some, Option.some.injEq] at hd
        exact hd ▸ (ht _ b hg).merge unlabelled_classRecord
    · rw [ClassTable.get?_take_of_ne hn] at hd
      exact ht name d hd
  · exact ht

theorem Unlabelled.addReference (ht : Unlabelled t) {external : OrderedSet Location} {e : Evidence}
    {l : Location} : Unlabelled (addReference external e t l) := by
  intro name d hd
  by_cases hn : name = l.className
  · subst hn
    rw [get?_addReference_self, Option.some.injEq] at hd
    subst hd
    apply ClassRecord.Unlabelled.addToMethod
    rw [referring]
    cases hg : t.get? l.className with
    | none =>
      refine ⟨rfl, ?_⟩
      intro n r hr
      cases hr
    | some c => exact ht _ c hg
  · rw [get?_addReference_of_ne hn] at hd
    exact ht name d hd

theorem unlabelled_table {classes : List CodeClass} {strings : StringTable} :
    Unlabelled (table registry m classes strings) := by
  refine List.foldlRecOn strings.entries _ ?_ ?_
  · refine List.foldlRecOn classes _ ?_ fun t ht c _ => ht.takeClass
    intro name c hc
    cases hc
  · intro t ht s _
    rw [takeString]
    split
    · exact ht
    · exact List.foldlRecOn s.2.toList _ ht fun u hu l _ => hu.addReference

theorem Tidy.unlabelled_emitted (ht : Tidy t) (hu : Unlabelled t) (registry : Registry) :
    (t.emitted registry).unlabelled = t := by
  apply OrderedMap.ext_get?
  intro name
  rw [ClassTable.get?_unlabelled]
  cases hc : t.get? name with
  | none =>
    have hnone : (t.emitted registry).get? name = none := by
      rw [Option.eq_none_iff_forall_ne_some]
      intro d hd
      obtain ⟨b, hb, _⟩ := ClassTable.get?_emitted.1 hd
      rw [hc] at hb
      cases hb
    rw [hnone]
    rfl
  | some c =>
    obtain ⟨hpruned, hevidence⟩ := ht.2 name c hc
    rw [ClassTable.get?_emitted.2 ⟨c, hc, hevidence, rfl⟩, Option.map_some,
      ClassRecord.unlabelled_label, hpruned.prune_eq, (hu name c hc).unlabelled_eq]

theorem Tidy.eq_of_agrees {u : ClassTable} (ht : Tidy t) (hu : Tidy u) (hlt : Unlabelled t)
    (hlu : Unlabelled u) (h : t.Agrees u) : t = u := by
  rw [← ht.unlabelled_emitted hlt ∅, ← hu.unlabelled_emitted hlu ∅,
    h.emitted_eq ht.1 hu.1 ∅]

theorem Tidy.forgetExternal_eq {u : ClassTable} (ht : Tidy t) (hu : Tidy u) (hlt : Unlabelled t)
    (hlu : Unlabelled u) (hclass : ∀ name e, t.ClassShows name e ↔ u.ClassShows name e)
    (hmethod : ∀ name n e, t.MethodShows name n e ↔ u.MethodShows name n e) :
    t.forgetExternal = u.forgetExternal := by
  rw [← ht.unlabelled_emitted hlt ∅, ← hu.unlabelled_emitted hlu ∅,
    ← ClassTable.unlabelled_forgetExternal, ← ClassTable.unlabelled_forgetExternal,
    ClassTable.emitted_forgetExternal_eq ht.1 hu.1 hclass hmethod ∅]

end Unlabelled

end Managed

def CodeClass.Shuffled (c d : CodeClass) : Prop :=
  c.name = d.name ∧ c.methods.Perm d.methods

/-- The same classes in another order, and each with its methods in another order. -/
def Rearranged (classes classes' : List CodeClass) : Prop :=
  ∃ mid, classes.Perm mid ∧ List.Forall₂ CodeClass.Shuffled mid classes'

/-- Every class of the one list is in the other, up to the order of its methods. -/
def CoveredBy (classes classes' : List CodeClass) : Prop :=
  ∀ c ∈ classes, ∃ d ∈ classes', c.Shuffled d

namespace Rearranged

variable {classes classes' : List CodeClass}

theorem of_perm (h : classes.Perm classes') : Rearranged classes classes' :=
  ⟨classes', h, List.forall₂_same.2 fun c _ => ⟨rfl, .refl c.methods⟩⟩

theorem map {f : CodeClass → CodeClass} (hf : ∀ c ∈ classes, c.Shuffled (f c)) :
    Rearranged classes (classes.map f) :=
  ⟨classes, .refl classes, List.forall₂_map_right_iff.2 (List.forall₂_same.2 hf)⟩

theorem coveredBy (h : Rearranged classes classes') :
    CoveredBy classes classes' ∧ CoveredBy classes' classes := by
  obtain ⟨mid, hperm, hall⟩ := h
  have hmid : CoveredBy mid classes' ∧ CoveredBy classes' mid := by
    clear hperm
    rw [CoveredBy, CoveredBy]
    induction hall with
    | nil => simp
    | cons hcd _ ih =>
      simp only [List.forall_mem_cons, List.exists_mem_cons_iff]
      refine ⟨⟨.inl hcd, fun c hc => .inr (ih.1 c hc)⟩, .inl ⟨hcd.1.symm, hcd.2.symm⟩, ?_⟩
      intro c hc
      exact .inr (ih.2 c hc)
  simp only [CoveredBy, hperm.mem_iff]
  exact hmid

theorem length_eq (h : Rearranged classes classes') : classes.length = classes'.length := by
  obtain ⟨mid, hperm, hall⟩ := h
  rw [hperm.length_eq, hall.length_eq]

theorem flatMap_methods (h : Rearranged classes classes') :
    (classes.flatMap (·.methods)).Perm (classes'.flatMap (·.methods)) := by
  obtain ⟨mid, hperm, hall⟩ := h
  refine (hperm.flatMap_right _).trans ?_
  clear hperm
  induction hall with
  | nil => exact .refl _
  | cons hcd _ ih => exact hcd.2.append ih

end Rearranged

namespace Managed

section Covered

variable {registry : Registry} {m : Matcher} {classes classes' : List CodeClass}
variable {strings : StringTable} {name n : String} {e : Evidence}

theorem ClassFact.of_coveredBy (h : ClassFact m classes name e) (hc : CoveredBy classes classes') :
    ClassFact m classes' name e := by
  cases h with
  | nameMatch hmem hn ha =>
    obtain ⟨d, hd, hcd, _⟩ := hc _ hmem
    exact .nameMatch hd (hcd ▸ hn) ha

theorem MethodFact.of_coveredBy (h : MethodFact registry m classes strings name n e)
    (hc : CoveredBy classes classes') : MethodFact registry m classes' strings name n e := by
  cases h with
  | nameMatch hmem hn hk hm ha =>
    obtain ⟨d, hd, hcd, hperm⟩ := hc _ hmem
    exact .nameMatch hd (hcd ▸ hn) (hperm.mem_iff.1 hk) hm ha
  | constantMatch hmem hn hk hm hx hcode ha hb hin =>
    obtain ⟨d, hd, hcd, hperm⟩ := hc _ hmem
    exact .constantMatch hd (hcd ▸ hn) (hperm.mem_iff.1 hk) hm hx hcode ha hb hin
  | stringReference hr hl ha => exact .stringReference hr hl ha

theorem mem_externalMethods {l : Location} :
    l ∈ externalMethods classes ↔ ∃ c ∈ classes, c.name = l.className ∧
      ∃ k ∈ c.methods, k.name = l.method ∧ k.external = true := by
  obtain ⟨className, method⟩ := l
  simp only [externalMethods, OrderedSet.mem_ofList, List.mem_flatMap, List.mem_map,
    List.mem_filter, Location.mk.injEq]
  grind

theorem externalMethods_of_coveredBy {l : Location} (h : l ∈ externalMethods classes)
    (hc : CoveredBy classes classes') : l ∈ externalMethods classes' := by
  obtain ⟨c, hmem, hn, k, hk, hm, hx⟩ := mem_externalMethods.1 h
  obtain ⟨d, hd, hcd, hperm⟩ := hc c hmem
  exact mem_externalMethods.2 ⟨d, hd, hcd ▸ hn, k, hperm.mem_iff.1 hk, hm, hx⟩

variable (hc : CoveredBy classes classes') (hc' : CoveredBy classes' classes)
include hc hc'

theorem classFact_iff_of_covered : ClassFact m classes name e ↔ ClassFact m classes' name e :=
  ⟨fun h => h.of_coveredBy hc, fun h => h.of_coveredBy hc'⟩

theorem methodFact_iff_of_covered :
    MethodFact registry m classes strings name n e ↔
      MethodFact registry m classes' strings name n e :=
  ⟨fun h => h.of_coveredBy hc, fun h => h.of_coveredBy hc'⟩

theorem externalMethods_eq_of_covered : externalMethods classes = externalMethods classes' := by
  apply OrderedSet.ext_mem
  intro l
  exact ⟨fun h => externalMethods_of_coveredBy h hc, fun h => externalMethods_of_coveredBy h hc'⟩

theorem external_table_iff_of_covered
    (hx : (table registry m classes ∅).External name n ↔
      (table registry m classes' ∅).External name n) :
    (table registry m classes strings).External name n ↔
      (table registry m classes' strings).External name n := by
  have hrecords : (∃ r, (table registry m classes ∅).Records name n r) ↔
      ∃ r, (table registry m classes' ∅).Records name n r := by
    rw [exists_records_table, exists_records_table]
    exact exists_congr fun e => methodFact_iff_of_covered hc hc'
  rw [external_table, external_table, ClassTable.mark?_congr hrecords hx,
    externalMethods_eq_of_covered hc hc']
  simp only [methodFact_iff_of_covered hc hc']

theorem table_eq_of_covered (hx : ∀ name n, (table registry m classes ∅).External name n ↔
      (table registry m classes' ∅).External name n) :
    table registry m classes strings = table registry m classes' strings := by
  apply tidy_table.eq_of_agrees tidy_table unlabelled_table unlabelled_table
  exact
    { classShows := by
        intro name e
        rw [classShows_table, classShows_table, classFact_iff_of_covered hc hc']
      methodShows := by
        intro name n e
        rw [methodShows_table, methodShows_table, methodFact_iff_of_covered hc hc']
      external := by
        intro name n
        exact external_table_iff_of_covered hc hc' (hx name n) }

variable (registry m strings) in
theorem forgetExternal_table_eq_of_covered :
    (table registry m classes strings).forgetExternal =
      (table registry m classes' strings).forgetExternal := by
  apply tidy_table.forgetExternal_eq tidy_table unlabelled_table unlabelled_table
  · intro name e
    rw [classShows_table, classShows_table, classFact_iff_of_covered hc hc']
  · intro name n e
    rw [methodShows_table, methodShows_table, methodFact_iff_of_covered hc hc']

end Covered

section Marks

variable {registry : Registry} {m : Matcher} {classes classes' : List CodeClass}
variable {strings : StringTable} {name n : String}

/-- Some class of the name has methods that show something, and none of those is external. -/
def SettledOwn (registry : Registry) (m : Matcher) (classes : List CodeClass)
    (name n : String) : Prop :=
  ∃ c ∈ classes, c.name = name ∧ (∃ k ∈ c.methods, tells registry m n k) ∧
    ∀ k ∈ c.methods, tells registry m n k → k.external = false

/-- In the classes of the name, all methods that show something are external. -/
def SettledExternal (registry : Registry) (m : Matcher) (classes : List CodeClass)
    (name n : String) : Prop :=
  ∀ c ∈ classes, c.name = name → ∀ k ∈ c.methods, tells registry m n k → k.external = true

theorem SettledOwn.not_external (h : SettledOwn registry m classes name n) :
    ¬ (table registry m classes ∅).External name n := by
  obtain ⟨c, hc, hn, ⟨k, hk, htells⟩, hall⟩ := h
  intro hx
  obtain ⟨first, hfirst⟩ := Option.isSome_iff_exists.1 (List.find?_isSome.2 ⟨k, hk, htells⟩)
  have hown := hall first (List.mem_of_find?_eq_some hfirst) (List.find?_some hfirst)
  rw [external_table_empty.1 hx c hc hn first hfirst] at hown
  cases hown

theorem SettledExternal.external (h : SettledExternal registry m classes name n) :
    (table registry m classes ∅).External name n := by
  rw [external_table_empty]
  intro c hc hn k hk
  exact h c hc hn k (List.mem_of_find?_eq_some hk) (List.find?_some hk)

theorem SettledOwn.of_coveredBy (h : SettledOwn registry m classes name n)
    (hc : CoveredBy classes classes') : SettledOwn registry m classes' name n := by
  obtain ⟨c, hmem, hn, ⟨k, hk, htells⟩, hall⟩ := h
  obtain ⟨d, hd, hcd, hperm⟩ := hc c hmem
  exact ⟨d, hd, hcd ▸ hn, ⟨k, hperm.mem_iff.1 hk, htells⟩,
    fun k hk => hall k (hperm.mem_iff.2 hk)⟩

theorem SettledExternal.of_coveredBy (h : SettledExternal registry m classes name n)
    (hc : CoveredBy classes' classes) : SettledExternal registry m classes' name n := by
  intro d hd hn k hk
  obtain ⟨c, hmem, hdc, hperm⟩ := hc d hd
  exact h c hmem (hdc ▸ hn) k (hperm.mem_iff.1 hk)

/-- No class of the name leaves the mark of the method to the order of its methods. -/
def Settled (registry : Registry) (m : Matcher) (classes : List CodeClass)
    (name n : String) : Prop :=
  SettledOwn registry m classes name n ∨ SettledExternal registry m classes name n

theorem Settled.external_iff (h : Settled registry m classes name n)
    (hc : CoveredBy classes classes') (hc' : CoveredBy classes' classes) :
    (table registry m classes ∅).External name n ↔
      (table registry m classes' ∅).External name n := by
  rcases h with h | h
  · exact iff_of_false h.not_external (h.of_coveredBy hc).not_external
  · exact iff_of_true h.external (h.of_coveredBy hc').external

theorem external_table_of_tells {c : CodeClass} {k : CodeMethod} (hc : c ∈ classes)
    (hn : c.name = name) (hk : k ∈ c.methods) (htells : tells registry m n k) :
    (table registry m classes strings).External name n ↔
      (table registry m classes ∅).External name n := by
  rw [tells, Bool.and_eq_true, beq_iff_eq, Bool.not_eq_true', List.isEmpty_eq_false_iff_exists_mem]
    at htells
  obtain ⟨hm, e, he⟩ := htells
  have hshows (strings : StringTable) : ∃ r, (table registry m classes strings).Records name n r := by
    rw [exists_records_table]
    rw [methodEvidence, List.mem_append, mem_nameEvidence, mem_constantEvidence] at he
    rcases he with ⟨a, rfl, ha⟩ | ⟨code, hx, hcode, a, ha, b, hb, hin, rfl⟩
    · exact ⟨_, .nameMatch hc hn hk hm (hm ▸ ha)⟩
    · exact ⟨_, .constantMatch hc hn hk hm hx hcode ha hb hin⟩
  obtain ⟨b, hb⟩ := Option.isSome_iff_exists.1 (ClassTable.isSome_mark?.2 (hshows strings))
  obtain ⟨b', hb'⟩ := Option.isSome_iff_exists.1 (ClassTable.isSome_mark?.2 (hshows ∅))
  have hmark := getD_mark?_table registry m classes strings ⟨name, n⟩
  rw [hb, hb', Option.getD_some, Option.getD_some] at hmark
  rw [ClassTable.external_iff_mark?, ClassTable.external_iff_mark?, hb, hb', hmark]

/-- The class with those methods first that are external or not, as asked for. -/
def firstMethods (external : Bool) (c : CodeClass) : CodeClass :=
  { c with methods := c.methods.filter (·.external == external) ++
      c.methods.filter (·.external != external) }

theorem shuffled_firstMethods (external : Bool) (c : CodeClass) :
    c.Shuffled (firstMethods external c) :=
  ⟨rfl, by
    simpa [firstMethods, bne] using (List.filter_append_perm (·.external == external) c.methods).symm⟩

theorem external_of_find?_firstMethods {external : Bool} {c : CodeClass} {k first : CodeMethod}
    (hk : k ∈ c.methods) (htells : tells registry m n k) (hx : k.external = external)
    (hfirst : (firstMethods external c).methods.find? (tells registry m n) = some first) :
    first.external = external := by
  have hmem : k ∈ c.methods.filter (·.external == external) :=
    List.mem_filter.2 ⟨hk, beq_iff_eq.2 hx⟩
  obtain ⟨l, hl⟩ := Option.isSome_iff_exists.1 (List.find?_isSome.2 ⟨k, hmem, htells⟩)
  rw [firstMethods, List.find?_append, hl, Option.some_or, Option.some.injEq] at hfirst
  rw [← hfirst]
  simpa using (List.mem_filter.1 (List.mem_of_find?_eq_some hl)).2

theorem exists_of_not_settled (h : ¬ Settled registry m classes name n) (strings : StringTable) :
    (table registry m (classes.map (firstMethods true)) strings).External name n ∧
      ¬ (table registry m (classes.map (firstMethods false)) strings).External name n := by
  rw [Settled, not_or] at h
  obtain ⟨hown, hexternal⟩ := h
  simp only [SettledExternal, not_forall, Bool.not_eq_true] at hexternal
  obtain ⟨c, hc, hn, k, hk, htells, hx⟩ := hexternal
  have hmem (external : Bool) : k ∈ (firstMethods external c).methods :=
    (shuffled_firstMethods external c).2.mem_iff.1 hk
  rw [external_table_of_tells (List.mem_map_of_mem hc) hn (hmem true) htells,
    external_table_of_tells (List.mem_map_of_mem hc) hn (hmem false) htells]
  constructor
  · rw [external_table_empty]
    intro d' hd' hdn first hfirst
    obtain ⟨d, hd, rfl⟩ := List.mem_map.1 hd'
    -- a class with methods that show something, none of them external, would settle the mark
    have hsome : ∃ l ∈ d.methods, tells registry m n l ∧ l.external = true := by
      by_contra hno
      apply hown
      refine ⟨d, hd, hdn, ⟨first, ?_, List.find?_some hfirst⟩, ?_⟩
      · exact (shuffled_firstMethods true d).2.mem_iff.2 (List.mem_of_find?_eq_some hfirst)
      · intro l hl hltells
        rw [← Bool.not_eq_true]
        exact fun hlx => hno ⟨l, hl, hltells, hlx⟩
    obtain ⟨l, hl, hltells, hlx⟩ := hsome
    exact external_of_find?_firstMethods hl hltells hlx hfirst
  · intro hall
    obtain ⟨first, hfirst⟩ :=
      Option.isSome_iff_exists.1 (List.find?_isSome.2 ⟨k, hmem false, htells⟩)
    have hown := external_of_find?_firstMethods hk htells hx hfirst
    rw [external_table_empty.1 hall _ (List.mem_map_of_mem hc) hn first hfirst] at hown
    cases hown

end Marks

end Managed

def ManagedPass.forgetExternal (p : ManagedPass) : ManagedPass :=
  { p with classes := p.classes.map ClassRecord.forgetExternal }

namespace Managed

section Findings

variable {registry : Registry} {m : Matcher} {classes classes' : List CodeClass}
variable {strings : StringTable}

theorem findings_eq_of_external (h : Rearranged classes classes')
    (hx : ∀ name n, (table registry m classes ∅).External name n ↔
      (table registry m classes' ∅).External name n) :
    findings registry m classes' strings = findings registry m classes strings := by
  have htable : table registry m classes strings = table registry m classes' strings :=
    table_eq_of_covered h.coveredBy.1 h.coveredBy.2 hx
  rw [findings, findings, htable, h.length_eq, h.flatMap_methods.length_eq]

theorem findings_eq_of_perm (h : classes.Perm classes') :
    findings registry m classes' strings = findings registry m classes strings := by
  apply findings_eq_of_external (.of_perm h)
  intro name n
  simp only [external_table_empty, h.mem_iff]

theorem forgetExternal_findings_eq (h : Rearranged classes classes') :
    (findings registry m classes' strings).forgetExternal =
      (findings registry m classes strings).forgetExternal := by
  have htable := congrArg OrderedMap.values
    (forgetExternal_table_eq_of_covered registry m strings h.coveredBy.1 h.coveredBy.2)
  rw [ClassTable.values_forgetExternal, ClassTable.values_forgetExternal] at htable
  rw [ManagedPass.mk.injEq]
  exact ⟨htable.symm, h.length_eq.symm, h.flatMap_methods.length_eq.symm⟩

/-- No order of the methods changes what is found if and only if every mark is settled. -/
theorem findings_eq_iff_settled :
    (∀ classes', Rearranged classes classes' →
        findings registry m classes' strings = findings registry m classes strings) ↔
      ∀ name n, Settled registry m classes name n := by
  constructor
  · intro hsame name n
    by_contra hno
    obtain ⟨hfirst, hlast⟩ := exists_of_not_settled hno strings
    have hmap (external : Bool) := hsame _ (Rearranged.map fun c (_ : c ∈ classes) =>
      shuffled_firstMethods external c)
    have hvalues := congrArg ManagedPass.classes ((hmap true).trans (hmap false).symm)
    apply hlast
    intro r hr
    refine hfirst r ?_
    rw [← tidy_table.1.named.recordedMethod_values] at hr ⊢
    exact Eq.mpr (congrArg (RecordedMethod · name n r) hvalues) hr
  · intro hsettled classes' hr
    apply findings_eq_of_external hr
    intro name n
    exact (hsettled name n).external_iff hr.coveredBy.1 hr.coveredBy.2

end Findings

/-- A pass whose budget lasts does not depend on the order of the classes, and the order of the methods
in a class can change nothing but the marks of external methods. It does not change these either if
and only if no class leaves a mark to the order of its methods: for every name, some class has only
methods of its own that show something, or all methods that show something are external. -/
theorem survey_rearranged (registry : Registry) (exclusions : Exclusions)
    (classes : List CodeClass) (strings : StringTable) (d : Deadline) (clock : Clock)
    (hd : ∀ i, d.isExpired (clock i) = false) :
    ∃ pass, survey registry (.ofRegistry registry exclusions) d clock classes strings = .ok pass ∧
      (∀ classes', classes.Perm classes' →
        survey registry (.ofRegistry registry exclusions) d clock classes' strings = .ok pass) ∧
      (∀ classes', Rearranged classes classes' → ∃ pass',
        survey registry (.ofRegistry registry exclusions) d clock classes' strings = .ok pass' ∧
          pass'.forgetExternal = pass.forgetExternal) ∧
      ((∀ classes', Rearranged classes classes' →
          survey registry (.ofRegistry registry exclusions) d clock classes' strings = .ok pass) ↔
        ∀ name n, Settled registry (.ofRegistry registry exclusions) classes name n) := by
  have hsurvey (classes : List CodeClass) :
      survey registry (.ofRegistry registry exclusions) d clock classes strings =
        .ok (findings registry (.ofRegistry registry exclusions) classes strings) :=
    survey_eq_ok hd _ _ _ _
  simp only [hsurvey, Except.ok.injEq, exists_eq_left']
  exact ⟨fun _ => findings_eq_of_perm, fun _ => forgetExternal_findings_eq,
    findings_eq_iff_settled⟩

/-- A class with two methods of one name, only one of which has its body in the package. -/
def overloaded : CodeClass := ⟨"Net", [⟨"aesRun", true, none⟩, ⟨"aesRun", false, none⟩]⟩

theorem survey_rearranged_overloaded :
    ∃ pass, survey twoAlgorithms (.ofRegistry twoAlgorithms {}) .unlimited (fun _ => 0)
        [overloaded, ⟨"Log", []⟩] ∅ = .ok pass ∧
      (∀ classes', [overloaded, ⟨"Log", []⟩].Perm classes' →
        survey twoAlgorithms (.ofRegistry twoAlgorithms {}) .unlimited (fun _ => 0) classes' ∅ =
          .ok pass) ∧
      (∀ classes', Rearranged [overloaded, ⟨"Log", []⟩] classes' → ∃ pass',
        survey twoAlgorithms (.ofRegistry twoAlgorithms {}) .unlimited (fun _ => 0) classes' ∅ =
            .ok pass' ∧
          pass'.forgetExternal = pass.forgetExternal) ∧
      ((∀ classes', Rearranged [overloaded, ⟨"Log", []⟩] classes' →
          survey twoAlgorithms (.ofRegistry twoAlgorithms {}) .unlimited (fun _ => 0) classes' ∅ =
            .ok pass) ↔
        ∀ name n, Settled twoAlgorithms (.ofRegistry twoAlgorithms {})
          [overloaded, ⟨"Log", []⟩] name n) :=
  survey_rearranged twoAlgorithms {} [overloaded, ⟨"Log", []⟩] ∅ .unlimited (fun _ => 0)
    fun _ => rfl

/-- The order of two methods of one name decides whether their record is marked as external. -/
theorem overloaded_order_matters :
    overloaded.Shuffled ⟨"Net", overloaded.methods.reverse⟩ ∧
      (survey twoAlgorithms (.ofRegistry twoAlgorithms {}) .unlimited (fun _ => 0)
        [overloaded] ∅).toOption ≠
      (survey twoAlgorithms (.ofRegistry twoAlgorithms {}) .unlimited (fun _ => 0)
        [⟨"Net", overloaded.methods.reverse⟩] ∅).toOption :=
  ⟨⟨rfl, (List.reverse_perm _).symm⟩, by decide +kernel⟩

end Managed

end CryptoSurvey
