import CryptoSurvey.Json.Value
import CryptoSurvey.Report.Assembly

namespace CryptoSurvey

/-- An algorithm that a class or, if there is one, its method is attributed to. -/
structure ManagedRow where
  app : String
  package? : Option String
  algorithm : String
  className : String
  method? : Option String
  /-- The label of the class or method. -/
  primary? : Option String
  nameMatch : Bool
  strings : List String
  /-- For every constant of the algorithm, whether the code contains it. -/
  constants : OrderedMap String Bool
  deriving DecidableEq

/-- An algorithm found in a library, or a library in which none was found. -/
structure NativeRow where
  app : String
  library : String
  path : String
  algorithm? : Option String
  symbols : List String
  constants : OrderedMap String Bool
  packer : Bool
  deriving DecidableEq

def Json.ofMembers (ms : List (String × Option Json)) : Json :=
  .object (ms.filterMap fun m => m.2.map (m.1, ·))

def Json.ofTexts (l : List String) : Json :=
  .list (l.map .text)

def Json.ofFlags (m : OrderedMap String Bool) : Json :=
  .object (m.map fun _ b => .boolean b).entries

def ManagedRow.toJson (r : ManagedRow) : Json :=
  .ofMembers
    [("app", some (.text r.app)),
     ("package", r.package?.map .text),
     ("algorithm", some (.text r.algorithm)),
     ("class", some (.text r.className)),
     ("method", r.method?.map .text),
     ("primary", r.primary?.map .text),
     ("name_match", some (.boolean r.nameMatch)),
     ("strings", some (.ofTexts r.strings)),
     ("constants", some (.ofFlags r.constants))]

def NativeRow.toJson (r : NativeRow) : Json :=
  .ofMembers
    [("app", some (.text r.app)),
     ("library", some (.text r.library)),
     ("path", some (.text r.path)),
     ("algorithm", some (.ofText? r.algorithm?)),
     ("symbols", some (.ofTexts r.symbols)),
     ("constants", some (.ofFlags r.constants)),
     ("packer", some (.boolean r.packer))]

def algorithmsOf (es : List Evidence) : List String :=
  (OrderedSet.ofList (es.map (·.algorithm))).toList

namespace ManagedRow

/-- For every constant of an algorithm, whether it was matched; one that is not registered has no
constants. -/
def flags (registry : Registry) (algorithm : String) (matched : List String) :
    OrderedMap String Bool :=
  .ofList (((registry.get? algorithm).map (·.constants)).getD [] |>.map fun c =>
    (c.name, matched.contains c.name))

def string? : Evidence → Option String
  | .stringReference _ value => some value
  | _ => none

def constant? : Evidence → Option String
  | .constantMatch _ constant => some constant
  | _ => none

/-- The row of one algorithm for the class or method that carries the evidence. -/
def ofEvidence (registry : Registry) (identity : Identity) (className : String)
    (method? primary? : Option String) (es : List Evidence) (algorithm : String) : ManagedRow :=
  let own := es.filter (·.algorithm == algorithm)
  { app := identity.fileName
    package? := identity.package?
    algorithm, className, method?, primary?
    nameMatch := own.contains (.nameMatch algorithm)
    strings := (OrderedSet.ofList (own.filterMap string?)).toList
    constants := flags registry algorithm (own.filterMap constant?) }

def ofClass (registry : Registry) (identity : Identity) (c : ClassRecord) : List ManagedRow :=
  let rows (method? primary? : Option String) (es : List Evidence) : List ManagedRow :=
    (algorithmsOf es).map (ofEvidence registry identity c.name method? primary? es)
  rows none c.primary? c.evidence.toList ++
    c.methods.values.flatMap fun m => rows (some m.name) m.primary? m.evidence.toList

end ManagedRow

namespace NativeRow

/-- The row of one algorithm, if the library has a symbol or a constant of it. -/
def ofAlgorithm? (app : String) (l : LibraryRecord) (a : Algorithm) : Option NativeRow :=
  let symbols := (l.symbols.get? a.name).getD []
  let constants : OrderedMap String Bool := .ofList (a.constants.map fun c =>
    (c.name, (l.constants.get? c.name).getD false))
  if symbols.isEmpty && !constants.values.any id then none
  else some
    { app, library := l.name, path := l.path, algorithm? := some a.name, symbols, constants,
      packer := l.packer }

/-- The rows of a library in order of priority, or a bare one if there are none. -/
def ofLibrary (registry : Registry) (app : String) (l : LibraryRecord) : List NativeRow :=
  match registry.algorithms.filterMap (ofAlgorithm? app l) with
  | [] =>
    [{ app, library := l.name, path := l.path, algorithm? := none, symbols := [],
       constants := l.constants, packer := l.packer }]
  | rows => rows

end NativeRow

namespace Report

def managedRows (registry : Registry) (r : Report) : List ManagedRow :=
  r.classes.flatMap (ManagedRow.ofClass registry r.identity)

def nativeRows (registry : Registry) (r : Report) : List NativeRow :=
  r.libraries.flatMap (NativeRow.ofLibrary registry r.identity.fileName)

end Report

end CryptoSurvey
