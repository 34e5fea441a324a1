import CryptoSurvey.Deadline
import CryptoSurvey.Matching.Matcher
import CryptoSurvey.Package.Basic
import CryptoSurvey.Report.Record
import CryptoSurvey.Signature

namespace CryptoSurvey.Managed

def nameEvidence (m : Matcher) (name : String) : List Evidence :=
  ((m.algorithm? name .identifier).map .nameMatch).toList

/-- Evidence in the body of a method: the registered constants that it contains. -/
def constantEvidence (registry : Registry) (method : CodeMethod) : List Evidence :=
  match method.body? with
  | none => []
  | some code => registry.constants.filterMap fun c =>
      if Signature.containedIn code c.2.bytes then some (.constantMatch c.1.name c.2.name) else none

def methodEvidence (registry : Registry) (m : Matcher) (method : CodeMethod) : List Evidence :=
  nameEvidence m method.name ++ constantEvidence registry method

/-- Takes the evidence of a method into the record of its class. A method without evidence leaves no
trace. -/
def takeMethod (registry : Registry) (m : Matcher) (record : ClassRecord) (method : CodeMethod) :
    ClassRecord :=
  match methodEvidence registry m method with
  | [] => record
  | es => record.addToMethod method.name method.external es

def classRecord (registry : Registry) (m : Matcher) (c : CodeClass) : ClassRecord :=
  c.methods.foldl (takeMethod registry m)
    ((nameEvidence m c.name).foldl ClassRecord.add { name := c.name })

def takeClass (registry : Registry) (m : Matcher) (t : ClassTable) (c : CodeClass) : ClassTable :=
  let record := classRecord registry m c
  if record.hasEvidence then t.take record else t

def externalMethods (classes : List CodeClass) : OrderedSet Location :=
  .ofList (classes.flatMap fun c => (c.methods.filter (·.external)).map fun method =>
    ⟨c.name, method.name⟩)

/-- Adds evidence to the method at a location, which need not be among the classes. -/
def addReference (external : OrderedSet Location) (e : Evidence) (t : ClassTable)
    (location : Location) : ClassTable :=
  t.alter location.className fun found? =>
    (found?.getD { name := location.className }).addToMethod location.method
      (external.contains location) [e]

def takeString (m : Matcher) (external : OrderedSet Location) (t : ClassTable)
    (s : String × OrderedSet Location) : ClassTable :=
  match m.algorithm? s.1 .literal with
  | none => t
  | some a => s.2.toList.foldl (addReference external (.stringReference a s.1)) t

def stringInterval : Nat := 256

/-- Folds over a list and looks at the clock before every item whose position is a multiple of
`interval`. The first look is number `first`. -/
def timedFold {α β : Type} (d : Deadline) (clock : Clock) (interval first : Nat) (f : β → α → β)
    (start : β) (items : List α) : Except AnalysisError β :=
  items.zipIdx.foldlM (fun b (item, i) => do
    if i % interval == 0 then d.check (clock (first + i / interval))
    return f b item) start

/-- Surveys decompiled code. The clock is looked at before every class and, after that, every 256
strings. -/
def survey (registry : Registry) (m : Matcher) (d : Deadline) (clock : Clock)
    (classes : List CodeClass) (strings : StringTable) : Except AnalysisError ManagedPass := do
  let t ← timedFold d clock 1 0 (takeClass registry m) ∅ classes
  let t ← timedFold d clock stringInterval classes.length
    (takeString m (externalMethods classes)) t strings.entries
  return { classes := t.values,
           classesScanned := classes.length,
           methodsScanned := (classes.flatMap (·.methods)).length }

end CryptoSurvey.Managed
