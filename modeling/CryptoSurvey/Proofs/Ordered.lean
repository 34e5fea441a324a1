import CryptoSurvey.Ordered.Map
import CryptoSurvey.Ordered.Set

open Std

namespace CryptoSurvey

theorem compare_self_ne_lt {κ : Type} [Ord κ] [TransOrd κ] (k : κ) : compare k k ≠ .lt := by
  have hk : compare k k = .eq := ReflCmp.compare_self
  rw [hk]
  exact Ordering.noConfusion

theorem eq_of_increasing {α κ : Type} [Ord κ] [TransOrd κ] (key : α → κ) {l l' : List α}
    (h : l.Pairwise fun a b => compare (key a) (key b) = .lt)
    (h' : l'.Pairwise fun a b => compare (key a) (key b) = .lt)
    (hmem : ∀ a, a ∈ l ↔ a ∈ l') : l = l' := by
  have hnodup {l : List α} (h : l.Pairwise fun a b => compare (key a) (key b) = .lt) : l.Nodup := by
    refine h.imp ?_
    rintro a b hab rfl
    exact compare_self_ne_lt _ hab
  have hperm : l.Perm l' := (List.perm_ext_iff_of_nodup (hnodup h) (hnodup h')).2 hmem
  refine hperm.eq_of_pairwise ?_ h h'
  intro a b _ _ hab hba
  rw [OrientedCmp.gt_iff_lt.2 hab] at hba
  cases hba

theorem compare_eq_lt_iff {a b : String} : compare a b = .lt ↔ a < b :=
  compareOfLessAndEq_eq_lt

namespace OrderedSet

variable {α : Type} [Ord α]

@[simp]
theorem not_mem_empty (a : α) : a ∉ (∅ : OrderedSet α) :=
  List.not_mem_nil

theorem isEmpty_eq_false_iff {s : OrderedSet α} : s.isEmpty = false ↔ ∃ a, a ∈ s := by
  rw [isEmpty, List.isEmpty_eq_false_iff_exists_mem]
  rfl

variable [TransOrd α]

theorem ext_mem {s t : OrderedSet α} (h : ∀ a, a ∈ s ↔ a ∈ t) : s = t :=
  ext (eq_of_increasing id s.increasing t.increasing h)

@[simp]
theorem mem_ofList [LawfulEqOrd α] {a : α} {l : List α} : a ∈ ofList l ↔ a ∈ l := by
  rw [ofList, mem_insertMany, or_iff_left (not_mem_empty a)]

theorem pairwise_lt (s : OrderedSet String) : s.toList.Pairwise (· < ·) := by
  refine s.increasing.imp ?_
  intro a b h
  exact compare_eq_lt_iff.1 h

end OrderedSet

namespace OrderedMap

variable {κ α β : Type} [Ord κ]

@[simp]
theorem get?_empty (k : κ) : (∅ : OrderedMap κ α).get? k = none := rfl

variable [TransOrd κ] [LawfulEqOrd κ]

theorem get?_eq_some_iff {s : OrderedMap κ α} {k : κ} {a : α} :
    s.get? k = some a ↔ (k, a) ∈ s.entries := by
  obtain ⟨l, h⟩ := s
  simp only [get?]
  induction l with
  | nil => simp
  | cons e rest ih =>
    rw [List.pairwise_cons] at h
    rw [List.find?_cons]
    cases hk : compare k e.1 with
    | eq =>
      have hke : k = e.1 := LawfulEqOrd.eq_of_compare hk
      have hrest : (k, a) ∉ rest := by
        intro hmem
        have hlt := h.1 _ hmem
        rw [← hke] at hlt
        exact compare_self_ne_lt k hlt
      rw [List.mem_cons, or_iff_left hrest, Prod.ext_iff]
      simp [hke, eq_comm]
    | lt | gt =>
      have hke : (k, a) ≠ e := by
        rintro rfl
        simp at hk
      simp [hke, ih h.2]

theorem ext_get? {s t : OrderedMap κ α} (h : ∀ k, s.get? k = t.get? k) : s = t := by
  refine ext (eq_of_increasing Prod.fst s.increasing t.increasing ?_)
  rintro ⟨k, a⟩
  rw [← get?_eq_some_iff, ← get?_eq_some_iff, h]

theorem mem_values_iff {s : OrderedMap κ α} {a : α} :
    a ∈ s.values ↔ ∃ k, s.get? k = some a := by
  simp only [values, List.mem_map, get?_eq_some_iff]
  constructor
  · rintro ⟨⟨k, b⟩, hmem, rfl⟩
    exact ⟨k, hmem⟩
  · rintro ⟨k, hmem⟩
    exact ⟨(k, a), hmem, rfl⟩

theorem mem_keys_iff {s : OrderedMap κ α} {k : κ} : k ∈ s.keys ↔ ∃ a, s.get? k = some a := by
  simp only [keys, List.mem_map, get?_eq_some_iff]
  constructor
  · rintro ⟨⟨k, a⟩, hmem, rfl⟩
    exact ⟨a, hmem⟩
  · rintro ⟨a, hmem⟩
    exact ⟨(k, a), hmem, rfl⟩

omit [LawfulEqOrd κ] in
theorem nodup_keys (s : OrderedMap κ α) : s.keys.Nodup := by
  rw [keys, List.Nodup, List.pairwise_map]
  refine s.increasing.imp ?_
  intro a b hab hk
  rw [hk] at hab
  exact compare_self_ne_lt _ hab

theorem keys_perm {s : OrderedMap κ α} {ks : List κ} (hks : ks.Nodup)
    (h : ∀ k, (∃ a, s.get? k = some a) ↔ k ∈ ks) : s.keys.Perm ks := by
  rw [List.perm_ext_iff_of_nodup s.nodup_keys hks]
  intro k
  exact mem_keys_iff.trans (h k)

theorem pairwise_values {s : OrderedMap String α} {name : α → String}
    (h : ∀ k a, s.get? k = some a → name a = k) :
    s.values.Pairwise fun a b => name a < name b := by
  rw [values, List.pairwise_map]
  refine s.increasing.imp_of_mem ?_
  rintro ⟨k, a⟩ ⟨l, b⟩ ha hb hkl
  rw [h k a (get?_eq_some_iff.2 ha), h l b (get?_eq_some_iff.2 hb)]
  exact compare_eq_lt_iff.1 hkl

omit [TransOrd κ] in
theorem get?_place_of_ne {k k' : κ} (hk : k' ≠ k) (f : Option α → α) (l : List (κ × α)) :
    (place k f l).find? (fun e => compare k' e.1 == .eq) =
      l.find? (fun e => compare k' e.1 == .eq) := by
  have hne : compare k' k ≠ .eq := fun h => hk (LawfulEqOrd.eq_of_compare h)
  induction l with
  | nil => simp [place, hne]
  | cons e rest ih =>
    simp only [place]
    split
    · simp [hne]
    · rename_i heq
      have hke : k = e.1 := LawfulEqOrd.eq_of_compare heq
      simp [← hke, hne]
    · rw [List.find?_cons, List.find?_cons, ih]

theorem get?_alter_self (k : κ) (f : Option α → α) (s : OrderedMap κ α) :
    (s.alter k f).get? k = some (f (s.get? k)) := by
  obtain ⟨l, h⟩ := s
  simp only [get?, alter]
  induction l with
  | nil => simp [place]
  | cons e rest ih =>
    rw [List.pairwise_cons] at h
    simp only [place]
    split
    · rename_i hk
      have hnone : (e :: rest).find? (fun e => compare k e.1 == .eq) = none := by
        rw [List.find?_eq_none]
        intro x hx
        rcases List.mem_cons.1 hx with rfl | hx
        · simp [hk]
        · simp [TransCmp.lt_trans hk (h.1 x hx)]
      simp only [hnone]
      simp
    · rename_i hk
      simp [hk]
    · rename_i hk
      simp only [List.find?_cons, hk]
      exact ih h.2

theorem get?_alter_of_ne {k k' : κ} (hk : k' ≠ k) (f : Option α → α) (s : OrderedMap κ α) :
    (s.alter k f).get? k' = s.get? k' :=
  congrArg (Option.map Prod.snd) (get?_place_of_ne hk f s.entries)

/-- Uniting one map with another entry by entry unites what they store under each key. -/
theorem get?_foldl_alter {f : α → α → α} {g : κ × α → Option α → α}
    (hg : ∀ e o, some (g e o) = o.merge f (some e.2)) (s t : OrderedMap κ α) (k : κ) :
    (t.entries.foldl (fun s e => s.alter e.1 (g e)) s).get? k = (s.get? k).merge f (t.get? k) := by
  obtain ⟨l, h⟩ := t
  induction l generalizing s with
  | nil => simp [get?]
  | cons e rest ih =>
    rw [List.pairwise_cons] at h
    rw [List.foldl_cons, ih _ h.2]
    by_cases hk : k = e.1
    · have hrest : (OrderedMap.mk rest h.2).get? k = none := by
        rw [Option.eq_none_iff_forall_ne_some]
        intro a ha
        have hlt := h.1 _ (get?_eq_some_iff.1 ha)
        rw [← hk] at hlt
        exact compare_self_ne_lt k hlt
      rw [hrest, Option.merge_none_right, hk, get?_alter_self, hg]
      simp [get?]
    · have hne : compare k e.1 ≠ .eq := fun h => hk (LawfulEqOrd.eq_of_compare h)
      rw [get?_alter_of_ne hk]
      simp [get?, hne]

/-- The last entry with the key has the value. -/
def LastEntry (l : List (κ × α)) (k : κ) (a : α) : Prop :=
  ∃ before after, l = before ++ (k, a) :: after ∧ ∀ e ∈ after, e.1 ≠ k

omit [Ord κ] [TransOrd κ] [LawfulEqOrd κ] in
theorem lastEntry_cons_iff {e : κ × α} {l : List (κ × α)} {k : κ} {a : α} :
    LastEntry (e :: l) k a ↔ LastEntry l k a ∨ e = (k, a) ∧ ∀ e ∈ l, e.1 ≠ k := by
  constructor
  · rintro ⟨before, after, h, hafter⟩
    rcases List.cons_eq_append_iff.1 h with ⟨rfl, h⟩ | ⟨before, rfl, rfl⟩
    · cases h
      exact .inr ⟨rfl, hafter⟩
    · exact .inl ⟨before, after, rfl, hafter⟩
  · rintro (⟨before, after, rfl, hafter⟩ | ⟨rfl, hl⟩)
    · exact ⟨e :: before, after, rfl, hafter⟩
    · exact ⟨[], l, rfl, hl⟩

omit [Ord κ] [TransOrd κ] [LawfulEqOrd κ] in
theorem lastEntry_iff_mem {l : List (κ × α)} (h : (l.map Prod.fst).Nodup) {k : κ} {a : α} :
    LastEntry l k a ↔ (k, a) ∈ l := by
  constructor
  · rintro ⟨before, after, rfl, _⟩
    exact List.mem_append_right _ List.mem_cons_self
  · intro hmem
    obtain ⟨before, after, rfl⟩ := List.append_of_mem hmem
    refine ⟨before, after, rfl, ?_⟩
    rintro e he rfl
    rw [List.map_append, List.map_cons, List.nodup_append, List.nodup_cons] at h
    exact h.2.1.1 (List.mem_map.2 ⟨e, he, rfl⟩)

theorem get?_foldl_insert {l : List (κ × α)} {s : OrderedMap κ α} {k : κ} {a : α} :
    (l.foldl (fun s e => s.insert e.1 e.2) s).get? k = some a ↔
      LastEntry l k a ∨ s.get? k = some a ∧ ∀ e ∈ l, e.1 ≠ k := by
  induction l generalizing s with
  | nil => simp [LastEntry]
  | cons e rest ih =>
    rw [List.foldl_cons, ih, lastEntry_cons_iff, or_assoc, List.forall_mem_cons]
    refine or_congr_right ?_
    by_cases hk : k = e.1
    · subst hk
      rw [insert, get?_alter_self, Option.some.injEq, Prod.ext_iff]
      simp
    · have hke : e ≠ (k, a) := fun he => hk (congrArg Prod.fst he).symm
      rw [insert, get?_alter_of_ne hk]
      simp [hke, Ne.symm hk]

theorem get?_ofList_eq_some_iff {l : List (κ × α)} {k : κ} {a : α} :
    (ofList l).get? k = some a ↔ LastEntry l k a := by
  rw [ofList, get?_foldl_insert, get?_empty]
  simp

theorem get?_ofList {l : List (κ × α)} (h : (l.map Prod.fst).Nodup) {k : κ} {a : α} :
    (ofList l).get? k = some a ↔ (k, a) ∈ l := by
  rw [get?_ofList_eq_some_iff, lastEntry_iff_mem h]

theorem get?_ofList_map {l : List β} {key : β → κ} {f : β → α} (h : (l.map key).Nodup) {k : κ}
    {a : α} : (ofList (l.map fun b => (key b, f b))).get? k = some a ↔
      ∃ b ∈ l, key b = k ∧ f b = a := by
  have hkeys : ((l.map fun b => (key b, f b)).map Prod.fst).Nodup := by
    rw [List.map_map]
    exact h
  simp only [get?_ofList hkeys, List.mem_map, Prod.mk.injEq]

theorem get?_ofList_filterMap {l : List β} {key : β → κ} {f : β → Option α} (h : (l.map key).Nodup)
    {k : κ} {a : α} : (ofList (l.filterMap fun b => (f b).map (key b, ·))).get? k = some a ↔
      ∃ b ∈ l, key b = k ∧ f b = some a := by
  have hkeys : ((l.filterMap fun b => (f b).map (key b, ·)).map Prod.fst).Nodup := by
    rw [List.Nodup, List.pairwise_map] at h ⊢
    refine h.filterMap _ ?_
    intro b b' hne e he e' he'
    obtain ⟨_, _, rfl⟩ := Option.map_eq_some_iff.1 he
    obtain ⟨_, _, rfl⟩ := Option.map_eq_some_iff.1 he'
    exact hne
  rw [get?_ofList hkeys, List.mem_filterMap]
  apply exists_congr
  intro b
  apply and_congr_right
  intro _
  rw [Option.map_eq_some_iff]
  constructor
  · rintro ⟨a', ha, he⟩
    cases he
    exact ⟨rfl, ha⟩
  · rintro ⟨rfl, ha⟩
    exact ⟨a, ha, rfl⟩

theorem get?_filterMap (f : κ → α → Option β) (s : OrderedMap κ α) (k : κ) :
    (s.filterMap f).get? k = (s.get? k).bind (f k) := by
  apply Option.ext
  intro b
  simp only [get?_eq_some_iff, filterMap, List.mem_filterMap, Option.bind_eq_some_iff,
    Option.map_eq_some_iff, Prod.mk.injEq]
  constructor
  · rintro ⟨⟨k', a⟩, hmem, b', hb, rfl, rfl⟩
    exact ⟨a, hmem, hb⟩
  · rintro ⟨a, hmem, hb⟩
    exact ⟨(k, a), hmem, b, hb, rfl, rfl⟩

theorem get?_map (f : κ → α → β) (s : OrderedMap κ α) (k : κ) :
    (s.map f).get? k = (s.get? k).map (f k) := by
  apply Option.ext
  intro b
  simp only [get?_eq_some_iff, map, List.mem_map, Option.map_eq_some_iff, Prod.mk.injEq]
  constructor
  · rintro ⟨⟨k', a⟩, hmem, rfl, rfl⟩
    exact ⟨a, hmem, rfl⟩
  · rintro ⟨a, hmem, rfl⟩
    exact ⟨(k, a), hmem, rfl, rfl⟩

end OrderedMap

end CryptoSurvey
