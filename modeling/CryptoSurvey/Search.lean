namespace CryptoSurvey.Search

variable {α : Type} [BEq α]

/-- The least position of `needle` in a sequence whose first element has position `i`. -/
def offsetFrom? (needle : List α) (i : Nat) : List α → Option Nat
  | [] => if needle.isEmpty then some i else none
  | a :: rest => if needle.isPrefixOf (a :: rest) then some i else offsetFrom? needle (i + 1) rest

def offset? (needle hay : List α) : Option Nat :=
  offsetFrom? needle 0 hay

/-- `needle` stands somewhere in `hay`; the empty needle stands everywhere. -/
def occurs (needle hay : List α) : Bool :=
  (offset? needle hay).isSome

theorem offsetFrom?_isSome (needle : List α) (i : Nat) (hay : List α) :
    (offsetFrom? needle i hay).isSome = (offsetFrom? needle 0 hay).isSome := by
  induction hay generalizing i with
  | nil => simp only [offsetFrom?]; split <;> rfl
  | cons a rest ih =>
    simp only [offsetFrom?]
    split
    · rfl
    · rw [ih (i + 1), ih (0 + 1)]

theorem occurs_iff_infix [LawfulBEq α] (needle hay : List α) :
    occurs needle hay = true ↔ needle <:+: hay := by
  induction hay with
  | nil => cases needle <;> simp [occurs, offset?, offsetFrom?]
  | cons a rest ih =>
    rw [List.infix_cons_iff, ← ih, ← List.isPrefixOf_iff_prefix]
    simp only [occurs, offset?, offsetFrom?]
    split
    · simp [*]
    · rw [offsetFrom?_isSome needle (0 + 1)]; simp [*]

end CryptoSurvey.Search
