import CryptoSurvey.Proofs.Constants
import CryptoSurvey.Proofs.Looks
import CryptoSurvey.Proofs.Records
import CryptoSurvey.Survey.Managed
import Mathlib.Algebra.GroupWithZero.Nat

namespace CryptoSurvey.Managed

/-- What the classes of a name show about themselves. -/
inductive ClassFact (m : Matcher) (classes : List CodeClass) (name : String) : Evidence → Prop
  | nameMatch {c : CodeClass} {a : String} (hc : c ∈ classes) (hn : c.name = name)
      (ha : m.algorithm? name .identifier = some a) : ClassFact m classes name (.nameMatch a)

/-- What the methods of a name in the classes of a name show. -/
inductive MethodFact (registry : Registry) (m : Matcher) (classes : List CodeClass)
    (strings : StringTable) (name method : String) : Evidence → Prop
  | nameMatch {c : CodeClass} {k : CodeMethod} {a : String} (hc : c ∈ classes)
      (hn : c.name = name) (hk : k ∈ c.methods) (hm : k.name = method)
      (ha : m.algorithm? method .identifier = some a) :
      MethodFact registry m classes strings name method (.nameMatch a)
  | constantMatch {c : CodeClass} {k : CodeMethod} {code : List UInt8} {a : Algorithm}
      {constant : Constant} (hc : c ∈ classes) (hn : c.name = name) (hk : k ∈ c.methods)
      (hm : k.name = method) (hx : k.external = false) (hcode : k.code = some code)
      (ha : a ∈ registry.algorithms) (hconstant : constant ∈ a.constants)
      (hbytes : constant.bytes <:+: code) :
      MethodFact registry m classes strings name method (.constantMatch a.name constant.name)
  | stringReference {value : String} {references : OrderedSet Location} {a : String}
      (hr : strings.references? value = some references)
      (hl : { className := name, method } ∈ references)
      (ha : m.algorithm? value .literal = some a) :
      MethodFact registry m classes strings name method (.stringReference a value)

theorem mem_nameEvidence {m : Matcher} {name : String} {e : Evidence} :
    e ∈ nameEvidence m name ↔ ∃ a, e = .nameMatch a ∧ m.algorithm? name .identifier = some a := by
  rw [nameEvidence, Option.mem_toList, Option.map_eq_some_iff]
  constructor
  · rintro ⟨a, ha, rfl⟩
    exact ⟨a, rfl, ha⟩
  · rintro ⟨a, rfl, ha⟩
    exact ⟨a, ha, rfl⟩

theorem body?_eq_some_iff {k : CodeMethod} {code : List UInt8} :
    k.body? = some code ↔ k.external = false ∧ k.code = some code := by
  rw [CodeMethod.body?]
  cases k.external with
  | true => simp
  | false => simp

theorem mem_constantEvidence {registry : Registry} {k : CodeMethod} {e : Evidence} :
    e ∈ constantEvidence registry k ↔ ∃ code, k.external = false ∧ k.code = some code ∧
      ∃ a ∈ registry.algorithms, ∃ c ∈ a.constants,
        c.bytes <:+: code ∧ e = .constantMatch a.name c.name := by
  rw [constantEvidence]
  constructor
  · intro he
    split at he
    · cases he
    · rename_i code hcode
      obtain ⟨⟨a, c⟩, hmem, he⟩ := List.mem_filterMap.1 he
      obtain ⟨ha, hc⟩ := Registry.mem_constants.1 hmem
      split at he
      · rename_i hin
        rw [Signature.containedIn_iff (registry.bytes_ne_nil ha hc)] at hin
        obtain ⟨hx, hcode⟩ := body?_eq_some_iff.1 hcode
        cases he
        exact ⟨code, hx, hcode, a, ha, c, hc, hin, rfl⟩
      · cases he
  · rintro ⟨code, hx, hcode, a, ha, c, hc, hin, rfl⟩
    rw [body?_eq_some_iff.2 ⟨hx, hcode⟩]
    refine List.mem_filterMap.2 ⟨(a, c), Registry.mem_constants.2 ⟨ha, hc⟩, ?_⟩
    exact if_pos ((Signature.containedIn_iff (registry.bytes_ne_nil ha hc)).2 hin)

section Class

variable {registry : Registry} {m : Matcher} {c : ClassRecord} {k : CodeMethod}

theorem evidence_takeMethod : (takeMethod registry m c k).evidence = c.evidence := by
  rw [takeMethod]
  split <;> rfl

theorem name_takeMethod : (takeMethod registry m c k).name = c.name := by
  rw [takeMethod]
  split <;> rfl

theorem methodShows_takeMethod {n : String} {e : Evidence} :
    (takeMethod registry m c k).MethodShows n e ↔
      c.MethodShows n e ∨ k.name = n ∧ e ∈ methodEvidence registry m k := by
  rw [takeMethod]
  split
  · rename_i hes
    simp [hes]
  · rw [ClassRecord.methodShows_addToMethod, eq_comm]

theorem wellFiled_takeMethod (h : c.WellFiled) : (takeMethod registry m c k).WellFiled := by
  rw [takeMethod]
  split
  · exact h
  · exact h.addToMethod _ _ _

theorem pruned_takeMethod (h : c.Pruned) : (takeMethod registry m c k).Pruned := by
  rw [takeMethod]
  split
  · exact h
  · rename_i hes
    exact h.addToMethod _ _ hes

end Class

section ClassRecord

variable (registry : Registry) (m : Matcher) (c : CodeClass)

theorem name_classRecord : (classRecord registry m c).name = c.name := by
  refine List.foldlRecOn (motive := fun r => r.name = c.name) c.methods (takeMethod registry m)
    ?_ ?_
  · rw [ClassRecord.foldl_add]
  · intro r hr k _
    rw [name_takeMethod, hr]

theorem evidence_classRecord :
    (classRecord registry m c).evidence = .ofList (nameEvidence m c.name) := by
  refine List.foldlRecOn (motive := fun r => r.evidence = .ofList (nameEvidence m c.name))
    c.methods (takeMethod registry m) ?_ ?_
  · rw [ClassRecord.foldl_add]
    rfl
  · intro r hr k _
    rw [evidence_takeMethod, hr]

variable {registry m c}

theorem methodShows_classRecord {n : String} {e : Evidence} :
    (classRecord registry m c).MethodShows n e ↔
      ∃ k ∈ c.methods, k.name = n ∧ e ∈ methodEvidence registry m k := by
  refine (foldl_iff_or (P := (ClassRecord.MethodShows · n e)) (f := takeMethod registry m)
    (fun _ _ => methodShows_takeMethod) c.methods _).trans (or_iff_right ?_)
  rw [ClassRecord.foldl_add]
  rintro ⟨r, hr, _⟩
  cases hr

theorem wellFiled_classRecord : (classRecord registry m c).WellFiled := by
  refine List.foldlRecOn c.methods (takeMethod registry m) ?_ fun r hr k _ =>
    wellFiled_takeMethod hr
  rw [ClassRecord.foldl_add]
  intro n r hr
  cases hr

theorem pruned_classRecord : (classRecord registry m c).Pruned := by
  refine List.foldlRecOn c.methods (takeMethod registry m) ?_ fun r hr k _ =>
    pruned_takeMethod hr
  rw [ClassRecord.foldl_add]
  intro n r hr
  cases hr

end ClassRecord

/-- Every class is filed under its own name and carries evidence, and so does every method that it
records. -/
def Tidy (t : ClassTable) : Prop :=
  t.WellFiled ∧ ∀ name c, t.get? name = some c → c.Pruned ∧ c.hasEvidence = true

theorem Tidy.take {t : ClassTable} (ht : Tidy t) {c : ClassRecord} (hf : c.WellFiled)
    (hp : c.Pruned) (he : c.hasEvidence = true) : Tidy (t.take c) := by
  refine ⟨ht.1.take hf, ?_⟩
  intro name d h
  by_cases hn : c.name = name
  · subst hn
    rw [ClassTable.get?_take_self] at h
    cases hg : t.get? c.name with
    | none =>
      rw [hg, Option.merge_none_left, Option.some.injEq] at h
      exact h ▸ ⟨hp, he⟩
    | some b =>
      obtain ⟨hbp, hbe⟩ := ht.2 c.name b hg
      rw [hg, Option.merge_some_some, Option.some.injEq] at h
      subst h
      refine ⟨hbp.merge hp, ?_⟩
      rw [ClassRecord.hasEvidence_iff] at hbe ⊢
      simp only [ClassRecord.mem_evidence_merge, ClassRecord.methodShows_merge]
      grind
  · rw [ClassTable.get?_take_of_ne hn] at h
    exact ht.2 name d h

section TakeClass

variable {registry : Registry} {m : Matcher} {t : ClassTable} {c : CodeClass}

theorem Tidy.takeClass (ht : Tidy t) : Tidy (takeClass registry m t c) := by
  rw [Managed.takeClass]
  split
  · rename_i he
    exact ht.take wellFiled_classRecord pruned_classRecord he
  · exact ht

theorem classShows_takeClass {name : String} {e : Evidence} :
    (takeClass registry m t c).ClassShows name e ↔
      t.ClassShows name e ∨ c.name = name ∧ e ∈ nameEvidence m c.name := by
  have hmem : e ∈ (classRecord registry m c).evidence ↔ e ∈ nameEvidence m c.name := by
    rw [evidence_classRecord, OrderedSet.mem_ofList]
  rw [takeClass]
  split
  · rw [ClassTable.classShows_take, name_classRecord, hmem]
  · rename_i hno
    rw [ClassRecord.hasEvidence_iff] at hno
    rw [← hmem]
    grind

theorem methodShows_takeClass {name n : String} {e : Evidence} :
    (takeClass registry m t c).MethodShows name n e ↔ t.MethodShows name n e ∨
      c.name = name ∧ ∃ k ∈ c.methods, k.name = n ∧ e ∈ methodEvidence registry m k := by
  rw [takeClass, ← methodShows_classRecord]
  split
  · rw [ClassTable.methodShows_take, name_classRecord]
  · rename_i hno
    rw [ClassRecord.hasEvidence_iff] at hno
    grind

end TakeClass

section AddReference

variable {external : OrderedSet Location} {e : Evidence} {t : ClassTable} {l : Location}

def referring (t : ClassTable) (l : Location) : ClassRecord :=
  (t.get? l.className).getD { name := l.className }

theorem get?_addReference_self : (addReference external e t l).get? l.className =
    some ((referring t l).addToMethod l.method (external.contains l) [e]) :=
  OrderedMap.get?_alter_self _ _ _

theorem get?_addReference_of_ne {name : String} (h : name ≠ l.className) :
    (addReference external e t l).get? name = t.get? name :=
  OrderedMap.get?_alter_of_ne h _ _

theorem classShows_addReference {name : String} {e' : Evidence} :
    (addReference external e t l).ClassShows name e' ↔ t.ClassShows name e' := by
  by_cases h : name = l.className
  · subst h
    rw [ClassTable.ClassShows, ClassTable.ClassShows, get?_addReference_self, referring]
    cases t.get? l.className with
    | none => simp [ClassRecord.addToMethod, ClassRecord.alterMethod]
    | some c => simp [ClassRecord.addToMethod, ClassRecord.alterMethod]
  · rw [ClassTable.ClassShows, get?_addReference_of_ne h, ← ClassTable.ClassShows]

theorem methodShows_addReference {name n : String} {e' : Evidence} :
    (addReference external e t l).MethodShows name n e' ↔
      t.MethodShows name n e' ∨ l = ⟨name, n⟩ ∧ e' = e := by
  obtain ⟨k, method⟩ := l
  by_cases h : name = k
  · subst h
    rw [ClassTable.MethodShows, get?_addReference_self, referring, ClassTable.MethodShows]
    cases t.get? name with
    | none =>
      simp only [Option.some.injEq, exists_eq_left', ClassRecord.methodShows_addToMethod]
      simp [ClassRecord.MethodShows, eq_comm]
    | some c => simp [ClassRecord.methodShows_addToMethod, eq_comm]
  · rw [ClassTable.MethodShows, get?_addReference_of_ne h, ← ClassTable.MethodShows]
    simp [Ne.symm h]

theorem Tidy.addReference (ht : Tidy t) : Tidy (addReference external e t l) := by
  have hr : (referring t l).name = l.className ∧ (referring t l).WellFiled ∧
      (referring t l).Pruned := by
    rw [referring]
    cases hg : t.get? l.className with
    | none =>
      refine ⟨rfl, ?_, ?_⟩
      · intro n r hr; cases hr
      · intro n r hr; cases hr
    | some c => exact ⟨(ht.1 _ c hg).1, (ht.1 _ c hg).2, (ht.2 _ c hg).1⟩
  obtain ⟨hn, hf, hp⟩ := hr
  constructor
  · intro name d h
    by_cases hname : name = l.className
    · subst hname
      rw [get?_addReference_self, Option.some.injEq] at h
      subst h
      exact ⟨hn, hf.addToMethod _ _ _⟩
    · rw [get?_addReference_of_ne hname] at h
      exact ht.1 name d h
  · intro name d h
    by_cases hname : name = l.className
    · subst hname
      rw [get?_addReference_self, Option.some.injEq] at h
      subst h
      refine ⟨hp.addToMethod _ _ (List.cons_ne_nil e []), ?_⟩
      rw [ClassRecord.hasEvidence_iff]
      exact .inr ⟨l.method, e, ClassRecord.methodShows_addToMethod.2 (.inr ⟨rfl, by simp⟩)⟩
    · rw [get?_addReference_of_ne hname] at h
      exact ht.2 name d h

end AddReference

section TakeString

variable {m : Matcher} {external : OrderedSet Location} {t : ClassTable}
variable {s : String × OrderedSet Location}

theorem classShows_takeString {name : String} {e : Evidence} :
    (takeString m external t s).ClassShows name e ↔ t.ClassShows name e := by
  rw [takeString]
  split
  · rfl
  · refine (foldl_iff_or (P := (ClassTable.ClassShows · name e)) (Q := fun _ => False)
      (fun _ _ => ?_) s.2.toList t).trans ?_
    · rw [classShows_addReference, or_false]
    · simp

theorem methodShows_takeString {name n : String} {e : Evidence} :
    (takeString m external t s).MethodShows name n e ↔ t.MethodShows name n e ∨
      ∃ a, m.algorithm? s.1 .literal = some a ∧ ⟨name, n⟩ ∈ s.2 ∧ e = .stringReference a s.1 := by
  rw [takeString]
  split
  · rename_i ha
    simp [ha]
  · rename_i a ha
    refine (foldl_iff_or (P := (ClassTable.MethodShows · name n e))
      (f := addReference external (.stringReference a s.1))
      (fun _ _ => methodShows_addReference) s.2.toList t).trans ?_
    simp only [ha, Option.some.injEq, exists_eq_left', OrderedSet.mem_iff]
    grind

theorem Tidy.takeString (ht : Tidy t) : Tidy (takeString m external t s) := by
  rw [Managed.takeString]
  split
  · exact ht
  · exact List.foldlRecOn s.2.toList _ ht fun u hu l _ => hu.addReference

end TakeString

theorem timedFold_eq {α β : Type} (d : Deadline) (clock : Clock) {interval : Nat}
    (hpos : 0 < interval) (first : Nat) (f : β → α → β) (start : β) (items : List α) :
    timedFold d clock interval first f start items =
      d.watch (fun i => clock (first + i)) ((items.length + interval - 1) / interval) >>=
        fun _ => .ok (items.foldl f start) := by
  rw [Deadline.watch, ← forM_range_every _ hpos]
  apply foldlM_zipIdx_eq
  rintro b ⟨a, i⟩
  simp only [beq_iff_eq]
  split <;> rfl

def table (registry : Registry) (m : Matcher) (classes : List CodeClass) (strings : StringTable) :
    ClassTable :=
  strings.entries.foldl (takeString m (externalMethods classes))
    (classes.foldl (takeClass registry m) ∅)

def findings (registry : Registry) (m : Matcher) (classes : List CodeClass)
    (strings : StringTable) : ManagedPass where
  classes := (table registry m classes strings).values
  classesScanned := classes.length
  methodsScanned := (classes.flatMap (·.methods)).length

/-- The number of looks of a pass: one for every class and one for every 256 strings begun. -/
def looks (classes : List CodeClass) (strings : StringTable) : Nat :=
  classes.length + (strings.size + 255) / 256

theorem survey_eq (registry : Registry) (m : Matcher) (d : Deadline) (clock : Clock)
    (classes : List CodeClass) (strings : StringTable) :
    survey registry m d clock classes strings =
      d.watch clock (looks classes strings) >>= fun _ =>
        .ok (findings registry m classes strings) := by
  have hclasses := timedFold_eq d clock Nat.one_pos 0 (takeClass registry m) ∅ classes
  simp only [Nat.zero_add, Nat.add_sub_cancel, Nat.div_one] at hclasses
  have hinterval : 0 < stringInterval := by decide
  rw [survey, hclasses, looks, Deadline.watch_add, bind_assoc, bind_assoc]
  congr 1
  funext _
  change (timedFold _ _ _ _ _ _ _ >>= _) = _
  rw [timedFold_eq d clock hinterval, bind_assoc]
  rfl

theorem survey_eq_ok {d : Deadline} {clock : Clock} (hd : ∀ i, d.isExpired (clock i) = false)
    (registry : Registry) (m : Matcher) (classes : List CodeClass) (strings : StringTable) :
    survey registry m d clock classes strings =
      .ok { classes := (table registry m classes strings).values
            classesScanned := classes.length
            methodsScanned := (classes.flatMap (·.methods)).length } := by
  rw [survey_eq, Deadline.watch_eq_ok (Deadline.not_findsSpent hd)]
  rfl

section Table

variable {registry : Registry} {m : Matcher} {classes : List CodeClass} {strings : StringTable}

theorem tidy_table : Tidy (table registry m classes strings) := by
  refine List.foldlRecOn strings.entries _ ?_ fun t ht s _ => ht.takeString
  refine List.foldlRecOn classes _ ?_ fun t ht c _ => ht.takeClass
  constructor
  · intro name c h; cases h
  · intro name c h; cases h

theorem classShows_table {name : String} {e : Evidence} :
    (table registry m classes strings).ClassShows name e ↔ ClassFact m classes name e := by
  refine (foldl_iff_or (P := (ClassTable.ClassShows · name e)) (Q := fun _ => False)
    (fun t s => ?_) strings.entries (classes.foldl (takeClass registry m) ∅)).trans ?_
  · rw [classShows_takeString, or_false]
  rw [foldl_iff_or (P := (ClassTable.ClassShows · name e)) (f := takeClass registry m)
    (fun _ _ => classShows_takeClass)]
  simp only [and_false, exists_false, or_false, mem_nameEvidence]
  constructor
  · rintro (⟨c, hc, _⟩ | ⟨c, hc, hn, a, rfl, ha⟩)
    · cases hc
    · exact .nameMatch hc hn (hn ▸ ha)
  · rintro ⟨hc, rfl, ha⟩
    exact .inr ⟨_, hc, rfl, _, rfl, ha⟩

theorem methodShows_table {name n : String} {e : Evidence} :
    (table registry m classes strings).MethodShows name n e ↔
      MethodFact registry m classes strings name n e := by
  rw [table, foldl_iff_or (P := (ClassTable.MethodShows · name n e))
    (f := takeString m (externalMethods classes)) (fun _ _ => methodShows_takeString),
    foldl_iff_or (P := (ClassTable.MethodShows · name n e)) (f := takeClass registry m)
    (fun _ _ => methodShows_takeClass)]
  simp only [methodEvidence, List.mem_append, mem_nameEvidence, mem_constantEvidence]
  constructor
  · rintro ((⟨c, hc, _⟩ | ⟨c, hc, hn, k, hk, hm, ⟨a, rfl, ha⟩ |
        ⟨code, hx, hcode, a, ha, b, hb, hin, rfl⟩⟩) | ⟨⟨v, refs⟩, hs, a, ha, hl, rfl⟩)
    · cases hc
    · exact .nameMatch hc hn hk hm (hm ▸ ha)
    · exact .constantMatch hc hn hk hm hx hcode ha hb hin
    · exact .stringReference (OrderedMap.get?_eq_some_iff.2 hs) hl ha
  · intro h
    cases h with
    | nameMatch hc hn hk hm ha =>
      exact .inl (.inr ⟨_, hc, hn, _, hk, hm, .inl ⟨_, rfl, hm ▸ ha⟩⟩)
    | constantMatch hc hn hk hm hx hcode ha hb hin =>
      exact .inl (.inr ⟨_, hc, hn, _, hk, hm, .inr ⟨_, hx, hcode, _, ha, _, hb, hin, rfl⟩⟩)
    | stringReference hr hl ha =>
      exact .inr ⟨(_, _), OrderedMap.get?_eq_some_iff.1 hr, _, ha, hl, rfl⟩

theorem exists_records_table {name n : String} :
    (∃ r, (table registry m classes strings).Records name n r) ↔
      ∃ e, MethodFact registry m classes strings name n e := by
  simp only [← methodShows_table]
  constructor
  · rintro ⟨r, c, hc, hr⟩
    obtain ⟨e, he⟩ := MethodRecord.hasEvidence_iff.1 ((tidy_table.2 name c hc).1 n r hr)
    exact ⟨e, c, hc, r, hr, he⟩
  · rintro ⟨e, c, hc, r, hr, _⟩
    exact ⟨r, c, hc, hr⟩

/-- A class is filed if and only if something is known about it or one of its methods. -/
theorem exists_get?_table {name : String} :
    (∃ c, (table registry m classes strings).get? name = some c) ↔
      (∃ e, ClassFact m classes name e) ∨
        ∃ n e, MethodFact registry m classes strings name n e := by
  simp only [← methodShows_table, ← @classShows_table registry m classes strings]
  constructor
  · rintro ⟨c, hc⟩
    rcases ClassRecord.hasEvidence_iff.1 (tidy_table.2 name c hc).2 with ⟨e, he⟩ | ⟨n, e, he⟩
    · exact .inl ⟨e, c, hc, he⟩
    · exact .inr ⟨n, e, c, hc, he⟩
  · rintro (⟨e, c, hc, _⟩ | ⟨n, e, c, hc, _⟩)
    · exact ⟨c, hc⟩
    · exact ⟨c, hc⟩

theorem shownInClass_findings {name : String} {e : Evidence} :
    ShownInClass (findings registry m classes strings).classes name e ↔
      ClassFact m classes name e :=
  tidy_table.1.named.shownInClass_values.trans classShows_table

theorem shownInMethod_findings {name n : String} {e : Evidence} :
    ShownInMethod (findings registry m classes strings).classes name n e ↔
      MethodFact registry m classes strings name n e :=
  tidy_table.1.named.shownInMethod_values.trans methodShows_table

theorem wellFiled_findings {c : ClassRecord}
    (hc : c ∈ (findings registry m classes strings).classes) : c.WellFiled := by
  obtain ⟨name, hname⟩ := OrderedMap.mem_values_iff.1 hc
  exact (tidy_table.1 name c hname).2

end Table

/-- A pass whose budget lasts finds every fact and nothing else. Classes come in strictly increasing
order of their names, and there are records of just those classes and methods about which a fact is
known. -/
theorem survey_exact (registry : Registry) (exclusions : Exclusions) (classes : List CodeClass)
    (strings : StringTable) (d : Deadline) (clock : Clock)
    (hd : ∀ i, d.isExpired (clock i) = false) :
    ∃ pass, survey registry (.ofRegistry registry exclusions) d clock classes strings = .ok pass ∧
      pass.classes.Pairwise (fun a b => a.name < b.name) ∧
      (∀ name e, ShownInClass pass.classes name e ↔
        ClassFact (.ofRegistry registry exclusions) classes name e) ∧
      (∀ name n e, ShownInMethod pass.classes name n e ↔
        MethodFact registry (.ofRegistry registry exclusions) classes strings name n e) ∧
      (∀ name, (∃ c ∈ pass.classes, c.name = name) ↔
        (∃ e, ClassFact (.ofRegistry registry exclusions) classes name e) ∨
          ∃ n e, MethodFact registry (.ofRegistry registry exclusions) classes strings name n e) ∧
      (∀ name n, (∃ r, RecordedMethod pass.classes name n r) ↔
        ∃ e, MethodFact registry (.ofRegistry registry exclusions) classes strings name n e) ∧
      pass.classesScanned = classes.length ∧
      pass.methodsScanned = (classes.map (·.methods.length)).sum := by
  refine ⟨_, survey_eq_ok hd _ _ _ _, ?_, ?_, ?_, ?_, ?_, rfl, ?_⟩
  · exact tidy_table.1.named.pairwise_values
  · intro name e
    rw [tidy_table.1.named.shownInClass_values, classShows_table]
  · intro name n e
    rw [tidy_table.1.named.shownInMethod_values, methodShows_table]
  · intro name
    simp only [tidy_table.1.named.mem_values]
    exact exists_get?_table
  · intro name n
    simp only [tidy_table.1.named.recordedMethod_values]
    exact exists_records_table
  · exact List.length_flatMap

def twoAlgorithms : Registry where
  algorithms := [⟨"sm4", [], [⟨"sbox", [0xd6, 0x90]⟩]⟩, ⟨"aes", [], []⟩]
  faultless := by decide +kernel

theorem survey_exact_missingClass :
    ∃ pass, survey twoAlgorithms (.ofRegistry twoAlgorithms {}) .unlimited (fun _ => 0)
        [⟨"Net", [⟨"send", false, some [0, 0xd6, 0x90]⟩, ⟨"send", true, none⟩]⟩]
        (StringTable.insert ∅ "AES" ⟨"Gone", "run"⟩) = .ok pass ∧
      ShownInMethod pass.classes "Net" "send" (.constantMatch "sm4" "sbox") ∧
      ShownInMethod pass.classes "Gone" "run" (.stringReference "aes" "AES") := by
  obtain ⟨pass, hpass, _, _, hmethod, _⟩ := survey_exact twoAlgorithms {}
    [⟨"Net", [⟨"send", false, some [0, 0xd6, 0x90]⟩, ⟨"send", true, none⟩]⟩]
    (StringTable.insert ∅ "AES" ⟨"Gone", "run"⟩) .unlimited (fun _ => 0) (fun _ => rfl)
  refine ⟨pass, hpass, (hmethod _ _ _).2 ?_, (hmethod _ _ _).2 ?_⟩
  · exact @MethodFact.constantMatch twoAlgorithms _ _ _ "Net" "send" _ _ _
      ⟨"sm4", [], [⟨"sbox", [0xd6, 0x90]⟩]⟩ ⟨"sbox", [0xd6, 0x90]⟩ List.mem_cons_self rfl
      List.mem_cons_self rfl rfl rfl List.mem_cons_self List.mem_cons_self ⟨[0], [], rfl⟩
  · exact .stringReference rfl (by decide) (by decide +kernel)

end CryptoSurvey.Managed
