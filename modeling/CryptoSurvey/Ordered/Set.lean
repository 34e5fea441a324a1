open Std

namespace CryptoSurvey

/-- A finite set as a strictly increasing list, so that two sets with the same members are equal. -/
structure OrderedSet (α : Type) [Ord α] where
  toList : List α
  increasing : toList.Pairwise fun a b => compare a b = .lt

namespace OrderedSet

variable {α : Type} [Ord α]

@[ext]
theorem ext {s t : OrderedSet α} (h : s.toList = t.toList) : s = t := by
  cases s; cases t; cases h; rfl

instance : EmptyCollection (OrderedSet α) := ⟨⟨[], .nil⟩⟩

instance : Inhabited (OrderedSet α) := ⟨∅⟩

instance [DecidableEq α] : DecidableEq (OrderedSet α) := fun s t =>
  decidable_of_iff (s.toList = t.toList) ⟨ext, fun h => h ▸ rfl⟩

instance : Membership α (OrderedSet α) := ⟨fun s a => a ∈ s.toList⟩

instance [DecidableEq α] (a : α) (s : OrderedSet α) : Decidable (a ∈ s) :=
  inferInstanceAs (Decidable (a ∈ s.toList))

/-- Places an element in an increasing list unless it is there already. -/
def place (a : α) : List α → List α
  | [] => [a]
  | b :: rest =>
    match compare a b with
    | .lt => a :: b :: rest
    | .eq => b :: rest
    | .gt => b :: place a rest

theorem mem_place [LawfulEqOrd α] {x a : α} {l : List α} :
    x ∈ place a l ↔ x = a ∨ x ∈ l := by
  induction l with
  | nil => simp [place]
  | cons b rest ih =>
    simp only [place]
    split
    · simp
    · rename_i h; have := LawfulEqOrd.eq_of_compare h; subst this; simp
    · simp only [List.mem_cons, ih]; grind

theorem pairwise_place [TransOrd α] [LawfulEqOrd α] {a : α} {l : List α}
    (h : l.Pairwise fun a b => compare a b = .lt) :
    (place a l).Pairwise fun a b => compare a b = .lt := by
  induction l with
  | nil => simp [place]
  | cons b rest ih =>
    rw [List.pairwise_cons] at h
    simp only [place]
    split
    · rename_i hab
      refine .cons ?_ (.cons h.1 h.2)
      intro x hx
      rcases List.mem_cons.1 hx with rfl | hx
      · exact hab
      · exact TransCmp.lt_trans hab (h.1 x hx)
    · exact .cons h.1 h.2
    · rename_i hab
      refine .cons ?_ (ih h.2)
      intro x hx
      rcases mem_place.1 hx with rfl | hx
      · exact OrientedCmp.gt_iff_lt.1 hab
      · exact h.1 x hx

variable [TransOrd α] [LawfulEqOrd α]

def insert (a : α) (s : OrderedSet α) : OrderedSet α :=
  ⟨place a s.toList, pairwise_place s.increasing⟩

def insertMany (s : OrderedSet α) (l : List α) : OrderedSet α :=
  l.foldl (fun s a => s.insert a) s

def ofList (l : List α) : OrderedSet α :=
  insertMany ∅ l

def union (s t : OrderedSet α) : OrderedSet α :=
  s.insertMany t.toList

def contains [BEq α] (s : OrderedSet α) (a : α) : Bool :=
  s.toList.contains a

def isEmpty (s : OrderedSet α) : Bool :=
  s.toList.isEmpty

def size (s : OrderedSet α) : Nat :=
  s.toList.length

omit [TransOrd α] [LawfulEqOrd α] in
theorem mem_iff {a : α} {s : OrderedSet α} : a ∈ s ↔ a ∈ s.toList := Iff.rfl

@[simp]
theorem mem_insert {x a : α} {s : OrderedSet α} : x ∈ s.insert a ↔ x = a ∨ x ∈ s :=
  mem_place

@[simp]
theorem mem_insertMany {x : α} {s : OrderedSet α} {l : List α} :
    x ∈ s.insertMany l ↔ x ∈ l ∨ x ∈ s := by
  induction l generalizing s with
  | nil => simp [insertMany]
  | cons a l ih =>
    rw [insertMany, List.foldl_cons, ← insertMany, ih]
    simp only [mem_insert, List.mem_cons]
    grind

@[simp]
theorem mem_union {x : α} {s t : OrderedSet α} : x ∈ s.union t ↔ x ∈ s ∨ x ∈ t := by
  rw [union, mem_insertMany, mem_iff, or_comm]; rfl

end OrderedSet

end CryptoSurvey
