import CryptoSurvey.Batch.Run
import CryptoSurvey.Proofs.RowFiles
import CryptoSurvey.Proofs.Tally
import Mathlib.Data.List.FinRange
import Mathlib.Logic.Function.Basic
import Mathlib.Logic.Relation

namespace CryptoSurvey

namespace Batch

inductive Progress where
  | waiting
  | writing (worker : Nat) (left : List Block)
  | finished

def Progress.left (blocks : List Block) : Progress → List Block
  | .waiting => blocks
  | .writing _ left => left
  | .finished => []

/-- A batch under way: its files, its applications, and the blocks written so far. -/
structure State (n : Nat) where
  files : FileTree
  progress : Fin n → Progress
  written : List (Fin n × Block)

/-- The blocks of an application that have been written. -/
def blocksOf {n : Nat} (i : Fin n) (written : List (Fin n × Block)) : List Block :=
  (written.filter (·.1 = i)).map (·.2)

/-- The applications of which a block of the kind has been written, in the order of writing. -/
def unitsOf {n : Nat} (kind : RowKind) (written : List (Fin n × Block)) : List (Fin n) :=
  (written.filter (·.2.kind = kind)).map (·.1)

section Step

variable {n : Nat} (workers : Nat) (outputs : Outputs) (blocks : Fin n → List Block)

/-- An idle worker takes an application, or a worker writes the next block of its application, or it
is done with it. -/
inductive Step (s : State n) : State n → Prop
  | take {i : Fin n} {worker : Nat} (hworker : worker < workers)
      (hidle : ∀ j left, s.progress j ≠ .writing worker left) (hi : s.progress i = .waiting) :
      Step s { s with progress := Function.update s.progress i (.writing worker (blocks i)) }
  | write {i : Fin n} {worker : Nat} {b : Block} {left : List Block}
      (hi : s.progress i = .writing worker (b :: left)) :
      Step s
        { files := outputs.write s.files b
          progress := Function.update s.progress i (.writing worker left)
          written := s.written ++ [(i, b)] }
  | finish {i : Fin n} {worker : Nat} (hi : s.progress i = .writing worker []) :
      Step s { s with progress := Function.update s.progress i .finished }

/-- The files hold what was written, and each application has written its first blocks. -/
structure Accounted (tree : FileTree) (s : State n) : Prop where
  files : s.files = (s.written.map (·.2)).foldl outputs.write tree
  blocks : ∀ i, blocksOf i s.written ++ (s.progress i).left (blocks i) = blocks i

variable {workers outputs blocks} {tree : FileTree} {s s' : State n}

theorem blocksOf_append (i : Fin n) (written more : List (Fin n × Block)) :
    blocksOf i (written ++ more) = blocksOf i written ++ blocksOf i more := by
  rw [blocksOf, List.filter_append, List.map_append]
  rfl

/-- A step that leaves what an application has to write leaves what all have to write. -/
theorem left_update {progress : Fin n → Progress} {i : Fin n} {p : Progress}
    (h : p.left (blocks i) = (progress i).left (blocks i)) (j : Fin n) :
    (Function.update progress i p j).left (blocks j) = (progress j).left (blocks j) := by
  by_cases hj : j = i
  · subst hj
    rw [Function.update_self, h]
  · rw [Function.update_of_ne hj]

theorem Accounted.step (h : Accounted outputs blocks tree s)
    (hs : Step workers outputs blocks s s') : Accounted outputs blocks tree s' := by
  cases hs with
  | @take i worker hworker hidle hi =>
    refine ⟨h.files, ?_⟩
    intro j
    have hleft : Progress.left (blocks i) (.writing worker (blocks i)) =
        (s.progress i).left (blocks i) := by
      rw [hi]
      rfl
    exact (congrArg _ (left_update hleft j)).trans (h.blocks j)
  | @write i worker b left hi =>
    refine ⟨?_, ?_⟩
    · rw [List.map_append, List.foldl_append, ← h.files]
      rfl
    · intro j
      have hj := h.blocks j
      rw [blocksOf_append]
      by_cases hij : j = i
      · subst hij
        rw [hi] at hj
        simp only [Function.update_self, List.append_assoc]
        rw [← hj]
        simp [blocksOf, Progress.left]
      · have hnone : blocksOf j [(i, b)] = [] := by simp [blocksOf, Ne.symm hij]
        simp only [Function.update_of_ne hij, hnone, List.append_nil]
        exact hj
  | @finish i worker hi =>
    refine ⟨h.files, ?_⟩
    intro j
    have hleft : Progress.left (blocks i) .finished = (s.progress i).left (blocks i) := by
      rw [hi]
      rfl
    exact (congrArg _ (left_update hleft j)).trans (h.blocks j)

theorem mem_blocksOf {i : Fin n} {b : Block} {written : List (Fin n × Block)} :
    b ∈ blocksOf i written ↔ (i, b) ∈ written := by
  rw [blocksOf, List.mem_map]
  constructor
  · rintro ⟨⟨j, c⟩, hmem, rfl⟩
    rw [List.mem_filter, decide_eq_true_eq] at hmem
    exact hmem.2 ▸ hmem.1
  · intro hmem
    exact ⟨(i, b), List.mem_filter.2 ⟨hmem, decide_eq_true rfl⟩, rfl⟩

theorem count_unitsOf (kind : RowKind) (i : Fin n) (written : List (Fin n × Block)) :
    (unitsOf kind written).count i = ((blocksOf i written).map (·.kind)).count kind := by
  rw [unitsOf, blocksOf, List.count_eq_countP, List.count_eq_countP, List.countP_map,
    List.countP_map, List.countP_map, List.countP_filter, List.countP_filter]
  congr 1
  funext x
  simp [beq_eq_decide, Bool.and_comm]

theorem nodup_unitsOf {written : List (Fin n × Block)}
    (h : ∀ i, ((blocksOf i written).map (·.kind)).Nodup) (kind : RowKind) :
    (unitsOf kind written).Nodup := by
  rw [List.nodup_iff_count_le_one]
  intro i
  rw [count_unitsOf]
  exact List.nodup_iff_count_le_one.1 (h i) kind

theorem rowsOf_written {written : List (Fin n × Block)} {rows : Fin n → RowKind → List Json}
    (h : ∀ i, ∀ b ∈ blocksOf i written, b.rows = rows i b.kind) (kind : RowKind) :
    rowsOf kind (written.map (·.2)) = (unitsOf kind written).flatMap (rows · kind) := by
  rw [rowsOf, unitsOf, List.filter_map, List.flatMap_map, List.flatMap_map]
  apply List.flatMap_congr
  intro x hx
  rw [List.mem_filter] at hx
  have hkind : x.2.kind = kind := of_decide_eq_true hx.2
  rw [h x.1 x.2 (mem_blocksOf.2 hx.1), hkind]

end Step

/-- The text of the rows of an outcome. -/
def lines (registry : Registry) (o : UnitOutcome) (kind : RowKind) : String :=
  linesOf (o.rows registry kind)

section Accounted

variable {registry : Registry} {outputs : Outputs} {os : List UnitOutcome} {tree : FileTree}
  {s : State os.length} (h : Accounted outputs (fun i => (os.get i).blocks registry) tree s)
include h

theorem Accounted.own (i : Fin os.length) :
    blocksOf i s.written <+: (os.get i).blocks registry :=
  ⟨_, h.blocks i⟩

theorem Accounted.rows_eq (i : Fin os.length) :
    ∀ b ∈ blocksOf i s.written, b.rows = (os.get i).rows registry b.kind :=
  fun _ hb => UnitOutcome.rows_of_mem_blocks ((h.own i).subset hb)

theorem Accounted.once (kind : RowKind) : (unitsOf kind s.written).Nodup := by
  refine nodup_unitsOf (fun i => ?_) kind
  exact UnitOutcome.nodup_kinds_blocks.sublist ((h.own i).sublist.map _)

theorem Accounted.holds (hempty : outputs.Holds (fun _ => "") tree) (hapart : outputs.Apart) :
    outputs.Holds (fun kind => linesOf
      ((unitsOf kind s.written).flatMap fun i => (os.get i).rows registry kind)) s.files := by
  have hholds := hempty.foldl_write hapart (s.written.map (·.2))
  simp only [String.empty_append, ← h.files] at hholds
  simp only [← rowsOf_written h.rows_eq]
  exact hholds

end Accounted

variable {registry : Registry} {outputs : Outputs} {os : List UnitOutcome} {tree : FileTree}

end Batch

end CryptoSurvey
