import CryptoSurvey.Deadline
import CryptoSurvey.Image.Basic
import CryptoSurvey.Library
import CryptoSurvey.Matching.Matcher
import CryptoSurvey.Report.Record
import CryptoSurvey.Rules.RuleSet

namespace CryptoSurvey

namespace Native

def skipped (packers : Packers) (path reason : String) : SkippedLibrary :=
  { name := baseName path, path, reason, packer := packers.isPacker (baseName path) }

/-- Files a symbol under the algorithm that it is attributed to, if there is a list for that. -/
def fileSymbol (m : Matcher) (lists : OrderedMap String (List String)) (symbol : String) :
    OrderedMap String (List String) :=
  match m.algorithm? symbol .identifier with
  | some algorithm => lists.map fun name own => if name == algorithm then own ++ [symbol] else own
  | none => lists

def symbolsByAlgorithm (registry : Registry) (m : Matcher) (symbols : List String) :
    OrderedMap String (List String) :=
  symbols.foldl (fileSymbol m) (.ofList (registry.algorithms.map fun a => (a.name, [])))

def examine (rules : RuleSet) (m : Matcher) (l : Library) : Except SkippedLibrary LibraryRecord :=
  match Image.parse l.data with
  | .error e =>
    .error (skipped rules.packers l.path (InputError.badBinary l.fileName "ELF" e.message).message)
  | .ok image =>
    .ok { name := l.fileName
          path := l.path
          symbols := symbolsByAlgorithm rules.registry m image.symbols
          constants := Signature.scan rules.regions image.region? rules.registry
          packer := rules.packers.isPacker l.fileName }

def take (rules : RuleSet) (m : Matcher) (p : NativePass) (l : Library) : NativePass :=
  match examine rules m l with
  | .ok record =>
    { p with libraries := p.libraries ++ [record], librariesScanned := p.librariesScanned + 1 }
  | .error s => { p with skipped := p.skipped ++ [s], librariesScanned := p.librariesScanned + 1 }

def survey (rules : RuleSet) (m : Matcher) (d : Deadline) (clock : Clock)
    (libraries : List Library) : Except AnalysisError NativePass :=
  libraries.zipIdx.foldlM (fun p (l, i) => do
    d.check (clock i)
    return take rules m p l) {}

end Native

end CryptoSurvey
