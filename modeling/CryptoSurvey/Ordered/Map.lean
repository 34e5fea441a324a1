open Std

namespace CryptoSurvey

/-- A finite map as a list of entries with strictly increasing keys, so that two maps with the same
entries are equal. -/
structure OrderedMap (κ : Type) (α : Type) [Ord κ] where
  entries : List (κ × α)
  increasing : entries.Pairwise fun a b => compare a.1 b.1 = .lt

namespace OrderedMap

variable {κ α β : Type} [Ord κ]

@[ext]
theorem ext {s t : OrderedMap κ α} (h : s.entries = t.entries) : s = t := by
  cases s; cases t; cases h; rfl

instance : EmptyCollection (OrderedMap κ α) := ⟨⟨[], .nil⟩⟩

instance : Inhabited (OrderedMap κ α) := ⟨∅⟩

instance [DecidableEq κ] [DecidableEq α] : DecidableEq (OrderedMap κ α) := fun s t =>
  decidable_of_iff (s.entries = t.entries) ⟨ext, fun h => h ▸ rfl⟩

def get? (s : OrderedMap κ α) (k : κ) : Option α :=
  (s.entries.find? fun e => compare k e.1 == .eq).map (·.2)

def contains (s : OrderedMap κ α) (k : κ) : Bool :=
  (s.get? k).isSome

def keys (s : OrderedMap κ α) : List κ :=
  s.entries.map (·.1)

def values (s : OrderedMap κ α) : List α :=
  s.entries.map (·.2)

def size (s : OrderedMap κ α) : Nat :=
  s.entries.length

def isEmpty (s : OrderedMap κ α) : Bool :=
  s.entries.isEmpty

def place (k : κ) (f : Option α → α) : List (κ × α) → List (κ × α)
  | [] => [(k, f none)]
  | e :: rest =>
    match compare k e.1 with
    | .lt => (k, f none) :: e :: rest
    | .eq => (e.1, f (some e.2)) :: rest
    | .gt => e :: place k f rest

theorem fst_of_mem_place [LawfulEqOrd κ] {k : κ} {f : Option α → α} {l : List (κ × α)} {e : κ × α}
    (h : e ∈ place k f l) : e.1 = k ∨ ∃ d ∈ l, d.1 = e.1 := by
  induction l with
  | nil => simp only [place, List.mem_singleton] at h; exact .inl (h ▸ rfl)
  | cons d rest ih =>
    simp only [place] at h
    split at h
    · rcases List.mem_cons.1 h with rfl | h
      · exact .inl rfl
      · exact .inr ⟨e, h, rfl⟩
    · rename_i hk
      rcases List.mem_cons.1 h with rfl | h
      · exact .inl (LawfulEqOrd.eq_of_compare hk).symm
      · exact .inr ⟨e, List.mem_cons_of_mem _ h, rfl⟩
    · rcases List.mem_cons.1 h with rfl | h
      · exact .inr ⟨e, List.mem_cons_self, rfl⟩
      · rcases ih h with h | ⟨d', hd', h⟩
        · exact .inl h
        · exact .inr ⟨d', List.mem_cons_of_mem _ hd', h⟩

theorem pairwise_place [TransOrd κ] [LawfulEqOrd κ] {k : κ} {f : Option α → α}
    {l : List (κ × α)} (h : l.Pairwise fun a b => compare a.1 b.1 = .lt) :
    (place k f l).Pairwise fun a b => compare a.1 b.1 = .lt := by
  induction l with
  | nil => simp [place]
  | cons e rest ih =>
    rw [List.pairwise_cons] at h
    simp only [place]
    split
    · rename_i hk
      refine .cons ?_ (.cons h.1 h.2)
      intro x hx
      rcases List.mem_cons.1 hx with rfl | hx
      · exact hk
      · exact TransCmp.lt_trans hk (h.1 x hx)
    · exact .cons h.1 h.2
    · rename_i hk
      refine .cons ?_ (ih h.2)
      intro x hx
      rcases fst_of_mem_place hx with hx | ⟨d, hd, hx⟩
      · rw [hx]; exact OrientedCmp.gt_iff_lt.1 hk
      · rw [← hx]; exact h.1 d hd

def filterMap (f : κ → α → Option β) (s : OrderedMap κ α) : OrderedMap κ β where
  entries := s.entries.filterMap fun e => (f e.1 e.2).map (e.1, ·)
  increasing := by
    refine List.Pairwise.filterMap (fun e => (f e.1 e.2).map (e.1, ·)) ?_ s.increasing
    intro a a' h b hb b' hb'
    simp only [Option.map_eq_some_iff] at hb hb'
    obtain ⟨_, _, rfl⟩ := hb
    obtain ⟨_, _, rfl⟩ := hb'
    exact h

def map (f : κ → α → β) (s : OrderedMap κ α) : OrderedMap κ β where
  entries := s.entries.map fun e => (e.1, f e.1 e.2)
  increasing := List.pairwise_map.2 s.increasing

variable [TransOrd κ] [LawfulEqOrd κ]

def alter (k : κ) (f : Option α → α) (s : OrderedMap κ α) : OrderedMap κ α :=
  ⟨place k f s.entries, pairwise_place s.increasing⟩

def insert (k : κ) (a : α) (s : OrderedMap κ α) : OrderedMap κ α :=
  s.alter k fun _ => a

/-- The map of a list of entries; of two entries with one key the later counts. -/
def ofList (l : List (κ × α)) : OrderedMap κ α :=
  l.foldl (fun s e => s.insert e.1 e.2) ∅

end OrderedMap

end CryptoSurvey
