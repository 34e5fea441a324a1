import CryptoSurvey.Evidence
import CryptoSurvey.Ordered.Map
import CryptoSurvey.Ordered.Set

namespace CryptoSurvey

structure MethodRecord where
  className : String
  name : String
  external : Bool
  evidence : OrderedSet Evidence := ∅
  primary? : Option String := none
  deriving DecidableEq, Inhabited

namespace MethodRecord

def add (m : MethodRecord) (e : Evidence) : MethodRecord :=
  { m with evidence := m.evidence.insert e }

def merge (m n : MethodRecord) : MethodRecord :=
  { m with external := m.external && n.external, evidence := m.evidence.union n.evidence }

def hasEvidence (m : MethodRecord) : Bool :=
  !m.evidence.isEmpty

end MethodRecord

/-- What was found in a class, in its own name and in its methods. -/
structure ClassRecord where
  name : String
  evidence : OrderedSet Evidence := ∅
  methods : OrderedMap String MethodRecord := ∅
  primary? : Option String := none
  deriving DecidableEq, Inhabited

namespace ClassRecord

def add (c : ClassRecord) (e : Evidence) : ClassRecord :=
  { c with evidence := c.evidence.insert e }

/-- The record of a method, which is made with the given flag if there is none. -/
def methodOrNew (c : ClassRecord) (name : String) (external : Bool) : MethodRecord :=
  (c.methods.get? name).getD { className := c.name, name, external }

/-- Changes the record of a method, which is made with the given flag if there is none. -/
def alterMethod (c : ClassRecord) (name : String) (external : Bool)
    (f : MethodRecord → MethodRecord) : ClassRecord :=
  { c with
    methods := c.methods.alter name fun found? =>
      f (found?.getD { className := c.name, name, external }) }

def addToMethod (c : ClassRecord) (name : String) (external : Bool) (es : List Evidence) :
    ClassRecord :=
  c.alterMethod name external fun m => es.foldl MethodRecord.add m

/-- Unites two records; a method that only the second has is taken over as it is. -/
def merge (c d : ClassRecord) : ClassRecord :=
  { c with
    evidence := c.evidence.union d.evidence
    methods := d.methods.entries.foldl
      (fun ms e => ms.alter e.1 fun found? => match found? with
        | some m => m.merge e.2
        | none => e.2)
      c.methods }

def hasEvidence (c : ClassRecord) : Bool :=
  !c.evidence.isEmpty || c.methods.values.any MethodRecord.hasEvidence

def allEvidence (c : ClassRecord) : List Evidence :=
  c.evidence.toList ++ c.methods.values.flatMap (·.evidence.toList)

def prune (c : ClassRecord) : ClassRecord :=
  { c with methods := c.methods.filterMap fun _ m => if m.hasEvidence then some m else none }

end ClassRecord

abbrev ClassTable := OrderedMap String ClassRecord

def ClassTable.take (t : ClassTable) (c : ClassRecord) : ClassTable :=
  t.alter c.name fun found? => match found? with
    | some d => d.merge c
    | none => c

structure LibraryRecord where
  name : String
  path : String
  /-- For every algorithm, the symbols attributed to it, in the order of the symbol tables. -/
  symbols : OrderedMap String (List String)
  /-- For every constant, whether a scanned region contains it. -/
  constants : OrderedMap String Bool
  packer : Bool
  deriving DecidableEq, Inhabited

def LibraryRecord.hasEvidence (l : LibraryRecord) : Bool :=
  l.symbols.values.any (fun s => !s.isEmpty) || l.constants.values.any id

structure SkippedLibrary where
  name : String
  path : String
  reason : String
  packer : Bool
  deriving DecidableEq, Inhabited

structure ManagedPass where
  classes : List ClassRecord := []
  classesScanned : Nat := 0
  methodsScanned : Nat := 0
  deriving DecidableEq, Inhabited

structure NativePass where
  libraries : List LibraryRecord := []
  skipped : List SkippedLibrary := []
  /-- Every library examined, skipped ones included. -/
  librariesScanned : Nat := 0
  deriving DecidableEq, Inhabited

def NativePass.withSkipped (p : NativePass) (skipped : List SkippedLibrary) : NativePass :=
  { p with
    skipped := p.skipped ++ skipped
    librariesScanned := p.librariesScanned + skipped.length }

end CryptoSurvey
