import Mathlib.Data.List.Forall2

namespace CryptoSurvey

theorem exists_of_bind_eq_ok {ε α β : Type} {x : Except ε α} {f : α → Except ε β} {b : β}
    (h : (x >>= f) = .ok b) : ∃ a, x = .ok a ∧ f a = .ok b := by
  cases x with
  | error e => cases h
  | ok a => exact ⟨a, rfl, h⟩

theorem bind_eq_ok_iff {ε α β : Type} {x : Except ε α} {f : α → Except ε β} {b : β} :
    (x >>= f) = .ok b ↔ ∃ a, x = .ok a ∧ f a = .ok b := by
  refine ⟨exists_of_bind_eq_ok, ?_⟩
  rintro ⟨a, rfl, h⟩
  exact h

theorem bind_eq_error_iff {ε α β : Type} {x : Except ε α} {f : α → Except ε β} {e : ε} :
    (x >>= f) = .error e ↔ x = .error e ∨ ∃ a, x = .ok a ∧ f a = .error e := by
  cases x with
  | error e' => simp [bind, Except.bind]
  | ok a => simp [bind, Except.bind]

theorem exists_of_map_eq_ok {ε α β : Type} {x : Except ε α} {f : α → β} {b : β}
    (h : x.map f = .ok b) : ∃ a, x = .ok a ∧ f a = b := by
  cases x with
  | error e => cases h
  | ok a => exact ⟨a, rfl, Except.ok.inj h⟩

theorem toOption_eq_some_iff {ε α : Type} {x : Except ε α} {a : α} :
    x.toOption = some a ↔ x = .ok a := by
  cases x with
  | error e => simp [Except.toOption]
  | ok b => simp [Except.toOption]

theorem exists_of_any_toOption {ε α : Type} {x : Except ε α} {p : α → Bool}
    (h : x.toOption.any p = true) : ∃ a, x = .ok a ∧ p a = true := by
  cases x with
  | error e => cases h
  | ok a => exact ⟨a, rfl, h⟩

section MapM

variable {α β γ ε : Type} {f : α → Except ε β}

/-- A traversal succeeds if and only if every step does; how a step fails does not matter. -/
theorem mapM_eq_ok_iff {ε' : Type} {g : α → Except ε' β} (hfg : ∀ a b, f a = .ok b ↔ g a = .ok b)
    {items : List α} {results : List β} :
    items.mapM f = .ok results ↔ items.map g = results.map .ok := by
  induction items generalizing results with
  | nil => simp [pure, Except.pure, eq_comm]
  | cons a rest ih =>
    rw [List.mapM_cons]
    constructor
    · intro h
      obtain ⟨b, hb, h⟩ := exists_of_bind_eq_ok h
      obtain ⟨bs, hbs, h⟩ := exists_of_bind_eq_ok h
      cases h
      rw [List.map_cons, List.map_cons, (hfg a b).1 hb, ih.1 hbs]
    · intro h
      obtain ⟨b, bs, rfl, hb, hbs⟩ := List.map_eq_cons_iff.1 h.symm
      rw [(hfg a b).2 hb.symm, ih.2 hbs.symm]
      rfl

theorem mapM_eq_ok_iff_forall₂ {R : α → β → Prop} (hR : ∀ a b, f a = .ok b ↔ R a b)
    {items : List α} {results : List β} :
    items.mapM f = .ok results ↔ List.Forall₂ R items results := by
  rw [mapM_eq_ok_iff fun _ _ => Iff.rfl, ← List.forall₂_eq_eq_eq, List.forall₂_map_left_iff,
    List.forall₂_map_right_iff]
  simp only [hR]

theorem map_eq_of_mapM_eq_ok {items : List α} {results : List β}
    (h : items.mapM f = .ok results) : items.map f = results.map .ok :=
  (mapM_eq_ok_iff fun _ _ => Iff.rfl).1 h

theorem mem_iff_of_mapM_eq_ok {items : List α} {results : List β}
    (h : items.mapM f = .ok results) {b : β} : b ∈ results ↔ ∃ a ∈ items, f a = .ok b := by
  rw [← List.mem_map, map_eq_of_mapM_eq_ok h, List.mem_map]
  simp

theorem pairwise_of_mapM_eq_ok {items : List α} {results : List β} {R : α → α → Prop}
    {S : β → β → Prop} (h : items.mapM f = .ok results) (hitems : items.Pairwise R)
    (hRS : ∀ {a a' b b'}, f a = .ok b → f a' = .ok b' → R a a' → S b b') :
    results.Pairwise S := by
  have hfound : (items.map f).Pairwise fun x y => ∀ b b', x = .ok b → y = .ok b' → S b b' := by
    rw [List.pairwise_map]
    exact hitems.imp fun hR b b' hb hb' => hRS hb hb' hR
  rw [map_eq_of_mapM_eq_ok h, List.pairwise_map] at hfound
  exact hfound.imp fun hS => hS _ _ rfl rfl

theorem exists_of_mapM_eq_error {items : List α} {e : ε} (h : items.mapM f = .error e) :
    ∃ a ∈ items, f a = .error e := by
  induction items with
  | nil => cases h
  | cons a rest ih =>
    rw [List.mapM_cons] at h
    rcases bind_eq_error_iff.1 h with ha | ⟨b, _, h⟩
    · exact ⟨a, List.mem_cons_self, ha⟩
    · rcases bind_eq_error_iff.1 h with hrest | ⟨bs, _, h⟩
      · obtain ⟨x, hx, he⟩ := ih hrest
        exact ⟨x, List.mem_cons_of_mem a hx, he⟩
      · cases h

theorem mapM_eq_error {before after : List α} {a : α} {e : ε}
    (hbefore : ∀ b ∈ before, ∃ result, f b = .ok result) (ha : f a = .error e) :
    (before ++ a :: after).mapM f = .error e := by
  induction before with
  | nil =>
    rw [List.nil_append, List.mapM_cons, ha]
    rfl
  | cons b before ih =>
    rw [List.forall_mem_cons] at hbefore
    obtain ⟨result, hresult⟩ := hbefore.1
    rw [List.cons_append, List.mapM_cons, hresult, ih hbefore.2]
    rfl

theorem filterMap_of_mapM_eq_ok {items : List α} {results : List β}
    (h : items.mapM f = .ok results) {g : β → Option γ} {g' : α → Option γ}
    (hg : ∀ a, (f a).toOption.bind g = g' a) : results.filterMap g = items.filterMap g' := by
  calc results.filterMap g
      = (results.map Except.ok).filterMap fun r : Except ε β => r.toOption.bind g := by
        rw [List.filterMap_map]
        rfl
    _ = items.filterMap fun a => (f a).toOption.bind g := by
        rw [← map_eq_of_mapM_eq_ok h, List.filterMap_map]
        rfl
    _ = items.filterMap g' := by simp only [hg]

theorem exists_of_mapM_eq_ok {items : List α} {results : List β}
    (h : items.mapM f = .ok results) {a : α} (ha : a ∈ items) : ∃ b, f a = .ok b := by
  have hmem : f a ∈ results.map .ok := map_eq_of_mapM_eq_ok h ▸ List.mem_map_of_mem ha
  obtain ⟨b, _, hb⟩ := List.mem_map.1 hmem
  exact ⟨b, hb.symm⟩

end MapM

end CryptoSurvey
