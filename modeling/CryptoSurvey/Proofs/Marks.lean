import CryptoSurvey.Proofs.Managed

namespace CryptoSurvey

def ClassRecord.mark? (c : ClassRecord) (n : String) : Option Bool :=
  (c.methods.get? n).map (·.external)

theorem ClassRecord.external_iff_mark? {c : ClassRecord} {n : String} :
    c.External n ↔ ∀ b ∈ c.mark? n, b = true := by
  rw [External, mark?]
  cases c.methods.get? n with
  | none => simp
  | some r => simp

theorem ClassRecord.mark?_addToMethod (c : ClassRecord) (m n : String) (external : Bool)
    (es : List Evidence) :
    (c.addToMethod m external es).mark? n =
      (c.mark? n).or (if m = n then some external else none) := by
  by_cases h : m = n
  · subst h
    rw [mark?, addToMethod, get?_alterMethod_self, MethodRecord.foldl_add, mark?, methodOrNew]
    cases c.methods.get? m with
    | none => simp
    | some r => simp
  · rw [mark?, addToMethod, get?_alterMethod_of_ne (Ne.symm h), if_neg h, Option.or_none]
    rfl

namespace ClassTable

/-- The mark of the method at a location, if it has a record. -/
def mark? (t : ClassTable) (l : Location) : Option Bool :=
  (t.get? l.className).bind (·.mark? l.method)

variable {t u : ClassTable} {name n : String}

theorem external_iff_mark? : t.External name n ↔ ∀ b ∈ t.mark? ⟨name, n⟩, b = true := by
  rw [mark?, External]
  cases h : t.get? name with
  | none => simp [Records, h]
  | some c =>
    simp only [Records, h, Option.some.injEq, exists_eq_left', Option.bind_some]
    exact ClassRecord.external_iff_mark?

theorem isSome_mark? : (t.mark? ⟨name, n⟩).isSome = true ↔ ∃ r, t.Records name n r := by
  rw [mark?]
  cases h : t.get? name with
  | none => simp [Records, h]
  | some c => simp [Records, h, ClassRecord.mark?, Option.isSome_iff_exists]

theorem mark?_congr (hr : (∃ r, t.Records name n r) ↔ ∃ r, u.Records name n r)
    (hx : t.External name n ↔ u.External name n) : t.mark? ⟨name, n⟩ = u.mark? ⟨name, n⟩ := by
  rw [← isSome_mark?, ← isSome_mark?] at hr
  rw [external_iff_mark?, external_iff_mark?] at hx
  cases ht : t.mark? ⟨name, n⟩ with
  | none =>
    have hu : u.mark? ⟨name, n⟩ = none := by simpa [ht] using hr
    rw [hu]
  | some b =>
    cases hu : u.mark? ⟨name, n⟩ with
    | none => simp [ht, hu] at hr
    | some b' =>
      rw [ht, hu] at hx
      exact congrArg some (Bool.eq_iff_iff.2 (by simpa using hx))

end ClassTable

namespace Managed

/-- The method has the name and shows something by itself. -/
def tells (registry : Registry) (m : Matcher) (n : String) (k : CodeMethod) : Bool :=
  k.name == n && !(methodEvidence registry m k).isEmpty

section Class

variable (registry : Registry) (m : Matcher) (n : String)

theorem mark?_takeMethod (c : ClassRecord) (k : CodeMethod) :
    (takeMethod registry m c k).mark? n =
      (c.mark? n).or (if tells registry m n k then some k.external else none) := by
  rw [takeMethod]
  split
  · rename_i hes
    simp [tells, hes]
  · rename_i hes
    have hne : methodEvidence registry m k ≠ [] := hes
    rw [ClassRecord.mark?_addToMethod]
    simp [tells, hne]

theorem mark?_foldl_takeMethod (ks : List CodeMethod) (c : ClassRecord) :
    (ks.foldl (takeMethod registry m) c).mark? n =
      (c.mark? n).or ((ks.find? (tells registry m n)).map (·.external)) := by
  induction ks generalizing c with
  | nil => simp
  | cons k ks ih =>
    rw [List.foldl_cons, ih, mark?_takeMethod, Option.or_assoc, List.find?_cons]
    cases tells registry m n k with
    | false => simp
    | true => simp

theorem mark?_classRecord (c : CodeClass) :
    (classRecord registry m c).mark? n =
      (c.methods.find? (tells registry m n)).map (·.external) := by
  rw [classRecord, mark?_foldl_takeMethod, ClassRecord.foldl_add]
  rfl

variable {registry m n}

theorem external_classRecord {c : CodeClass} :
    (classRecord registry m c).External n ↔
      ∀ k ∈ c.methods.find? (tells registry m n), k.external = true := by
  rw [ClassRecord.external_iff_mark?, mark?_classRecord]
  cases c.methods.find? (tells registry m n) with
  | none => simp
  | some k => simp

theorem external_takeClass {t : ClassTable} {c : CodeClass} {name : String} :
    (takeClass registry m t c).External name n ↔
      t.External name n ∧ (c.name = name → (classRecord registry m c).External n) := by
  rw [takeClass]
  split
  · rw [ClassTable.external_take, name_classRecord]
  · rename_i hno
    refine (and_iff_left_of_imp ?_).symm
    intro _ _ r hr
    -- a class that is not taken records no method, since all it records shows something
    obtain ⟨e, he⟩ := MethodRecord.hasEvidence_iff.1 (pruned_classRecord n r hr)
    exact absurd (ClassRecord.hasEvidence_iff.2 (.inr ⟨n, e, r, hr, he⟩)) hno

end Class

section Table

variable {registry : Registry} {m : Matcher} {classes : List CodeClass} {strings : StringTable}

theorem external_table_empty {name n : String} :
    (table registry m classes ∅).External name n ↔
      ∀ c ∈ classes, c.name = name → ∀ k ∈ c.methods.find? (tells registry m n),
        k.external = true := by
  refine (foldl_iff_and (P := (ClassTable.External · name n)) (f := takeClass registry m)
    (fun _ _ => external_takeClass) classes ∅).trans ?_
  simp only [external_classRecord]
  refine and_iff_right ?_
  rintro r ⟨c, hc, _⟩
  cases hc

variable {external : OrderedSet Location} {e : Evidence} {t : ClassTable} {l : Location}

theorem getD_mark?_addReference (l' : Location) :
    ((addReference external e t l').mark? l).getD (external.contains l) =
      (t.mark? l).getD (external.contains l) := by
  rw [ClassTable.mark?, ClassTable.mark?]
  by_cases hc : l.className = l'.className
  · have hmark : (referring t l').mark? l.method =
        (t.get? l.className).bind (·.mark? l.method) := by
      rw [referring, hc]
      cases t.get? l'.className with
      | none => rfl
      | some c => rfl
    rw [hc, get?_addReference_self, Option.bind_some, ClassRecord.mark?_addToMethod, hmark, ← hc]
    by_cases hm : l'.method = l.method
    · have hl : l' = l := by
        cases l; cases l'
        rw [Location.mk.injEq]
        exact ⟨hc.symm, hm⟩
      rw [if_pos hm, hl]
      cases (t.get? l.className).bind (·.mark? l.method) with
      | none => rfl
      | some b => rfl
    · rw [if_neg hm, Option.or_none]
  · rw [get?_addReference_of_ne hc]

theorem getD_mark?_takeString (s : String × OrderedSet Location) :
    ((takeString m external t s).mark? l).getD (external.contains l) =
      (t.mark? l).getD (external.contains l) := by
  rw [takeString]
  split
  · rfl
  · refine List.foldlRecOn
      (motive := fun u : ClassTable => (u.mark? l).getD (external.contains l) =
        (t.mark? l).getD (external.contains l)) s.2.toList _ rfl ?_
    intro u hu l' _
    rw [getD_mark?_addReference, hu]

/-- Strings give no mark to a method that has one, and to others the mark of any class. -/
theorem getD_mark?_table (registry : Registry) (m : Matcher) (classes : List CodeClass)
    (strings : StringTable) (l : Location) :
    ((table registry m classes strings).mark? l).getD ((externalMethods classes).contains l) =
      ((table registry m classes ∅).mark? l).getD ((externalMethods classes).contains l) := by
  refine List.foldlRecOn
    (motive := fun u : ClassTable => (u.mark? l).getD ((externalMethods classes).contains l) =
      ((table registry m classes ∅).mark? l).getD ((externalMethods classes).contains l))
    strings.entries _ rfl ?_
  intro u hu s _
  rw [getD_mark?_takeString, hu]

theorem external_table {name n : String} :
    (table registry m classes strings).External name n ↔
      ((∃ e, MethodFact registry m classes strings name n e) →
        ((table registry m classes ∅).mark? ⟨name, n⟩).getD
          ((externalMethods classes).contains ⟨name, n⟩) = true) := by
  rw [← exists_records_table, ← ClassTable.isSome_mark?, ClassTable.external_iff_mark?,
    ← getD_mark?_table registry m classes strings]
  cases (table registry m classes strings).mark? ⟨name, n⟩ with
  | none => simp
  | some b => simp

end Table

end Managed

end CryptoSurvey
