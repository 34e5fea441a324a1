import CryptoSurvey.Ordered.Map
import CryptoSurvey.Ordered.Set

open Std

namespace CryptoSurvey

structure Location where
  className : String
  method : String
  deriving DecidableEq, Inhabited

namespace Location

/-- Locations are ordered by class, then by method. -/
instance : Ord Location where
  compare := compareLex (compareOn Location.className) (compareOn Location.method)

theorem compare_eq (a b : Location) :
    compare a b = (compare a.className b.className).then (compare a.method b.method) := rfl

instance : TransOrd Location :=
  inferInstanceAs
    (TransCmp (compareLex (compareOn Location.className) (compareOn Location.method)))

instance : LawfulEqOrd Location where
  compare_self := by intro a; simp
  eq_of_compare := by
    intro a b h
    rw [compare_eq, Ordering.then_eq_eq] at h
    cases a; cases b
    rw [Location.mk.injEq]
    exact ⟨LawfulEqCmp.eq_of_compare h.1, LawfulEqCmp.eq_of_compare h.2⟩

end Location

/-- A method as the decompiler found it. The body of an external method lies outside the package. -/
structure CodeMethod where
  name : String
  external : Bool
  code : Option (List UInt8)
  deriving DecidableEq, Inhabited

def CodeMethod.body? (m : CodeMethod) : Option (List UInt8) :=
  if m.external then none else m.code

structure CodeClass where
  name : String
  methods : List CodeMethod
  deriving DecidableEq, Inhabited

/-- The literal strings of a package, each with at least one method that refers to it. -/
abbrev StringTable := OrderedMap String (OrderedSet Location)

namespace StringTable

def insert (t : StringTable) (value : String) (location : Location) : StringTable :=
  t.alter value fun found? => (found?.getD ∅).insert location

def references? (t : StringTable) (value : String) : Option (OrderedSet Location) :=
  t.get? value

def ofReferences (l : List (String × List Location)) : StringTable :=
  l.foldl (fun t e => e.2.foldl (fun t location => insert t e.1 location) t) ∅

end StringTable

structure Package where
  name? : Option String
  classes : List CodeClass
  strings : StringTable

end CryptoSurvey
