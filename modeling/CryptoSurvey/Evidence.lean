open Std

namespace CryptoSurvey

/-- Kinds of evidence, the strongest first. -/
inductive EvidenceKind where
  | nameMatch
  | constantMatch
  | stringReference
  deriving DecidableEq, Repr

/-- The position of a kind; a lower one is stronger. -/
def EvidenceKind.rank : EvidenceKind → Nat
  | .nameMatch => 0
  | .constantMatch => 1
  | .stringReference => 2

inductive Evidence where
  | nameMatch (algorithm : String)
  | constantMatch (algorithm constant : String)
  | stringReference (algorithm value : String)
  deriving DecidableEq, Inhabited

namespace Evidence

def kind : Evidence → EvidenceKind
  | .nameMatch _ => .nameMatch
  | .constantMatch _ _ => .constantMatch
  | .stringReference _ _ => .stringReference

def algorithm : Evidence → String
  | .nameMatch a => a
  | .constantMatch a _ => a
  | .stringReference a _ => a

def detail : Evidence → String
  | .nameMatch _ => ""
  | .constantMatch _ c => c
  | .stringReference _ v => v

def rank (e : Evidence) : Nat :=
  e.kind.rank

/-- Evidence is ordered by kind, then by algorithm, then by constant or string. -/
instance : Ord Evidence where
  compare := compareLex (compareOn rank) (compareLex (compareOn algorithm) (compareOn detail))

theorem compare_eq (a b : Evidence) :
    compare a b = (compare a.rank b.rank).then
      ((compare a.algorithm b.algorithm).then (compare a.detail b.detail)) := rfl

instance : TransOrd Evidence :=
  inferInstanceAs (TransCmp
    (compareLex (compareOn rank) (compareLex (compareOn algorithm) (compareOn detail))))

theorem eq_of_parts {a b : Evidence} (hr : a.rank = b.rank) (ha : a.algorithm = b.algorithm)
    (hd : a.detail = b.detail) : a = b := by
  cases a <;> cases b <;>
    simp_all [rank, kind, EvidenceKind.rank, algorithm, detail]

instance : LawfulEqOrd Evidence where
  compare_self := by intro a; simp
  eq_of_compare := by
    intro a b h
    rw [compare_eq, Ordering.then_eq_eq, Ordering.then_eq_eq] at h
    exact eq_of_parts (LawfulEqCmp.eq_of_compare h.1) (LawfulEqCmp.eq_of_compare h.2.1)
      (LawfulEqCmp.eq_of_compare h.2.2)

end Evidence

end CryptoSurvey
