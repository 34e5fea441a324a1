import CryptoSurvey.Packers
import CryptoSurvey.Registry
import CryptoSurvey.Rules.Document
import CryptoSurvey.Signature
import CryptoSurvey.Text.Utf8

namespace CryptoSurvey

structure RuleSet where
  registry : Registry
  exclusions : Exclusions
  regions : List String
  packers : Packers

def RegistryFault.error : RegistryFault → RulesError
  | .emptyName => .invalidRegistry "algorithm with empty name"
  | .emptyAlias algorithm => .invalidRegistry s!"algorithm '{algorithm}' has an empty alias"
  | .repeatedName pattern => .invalidRegistry s!"name '{pattern}' registered more than once"
  | .emptyConstant constant => .invalidConstant constant "signature is empty"
  | .repeatedConstant constant =>
    .invalidRegistry s!"constant '{constant}' registered more than once"

def Constant.read (name digits : String) : Except RulesError Constant :=
  match Constant.ofHex name digits with
  | .ok c => .ok c
  | .error e => .error (.invalidConstant name e.message)

def Registry.read (algorithms : List Algorithm) : Except RulesError Registry :=
  match Registry.ofAlgorithms algorithms with
  | .ok r => .ok r
  | .error fault => .error fault.error

namespace Rules

/-- The algorithm of an entry; its constants come in the order of their names. -/
def AlgorithmEntry.algorithm (e : AlgorithmEntry) : Except RulesError Algorithm := do
  let constants ← (OrderedMap.ofList e.constants).entries.mapM fun c => Constant.read c.1 c.2
  return .configured e.name e.aliases constants

def registryOf (entries : List AlgorithmEntry) : Except RulesError Registry := do
  Registry.read (← entries.mapM (·.algorithm))

end Rules

namespace RuleSet

/-- Replaces the parts that a document has. After an error the parts before it stay replaced. -/
def replace (rules : RuleSet) (d : Rules.Document) : RuleSet × Except RulesError Unit :=
  match (d.algorithms?.map Rules.registryOf).getD (.ok rules.registry) with
  | .error e => (rules, .error e)
  | .ok registry =>
    let rules := { rules with
      registry
      exclusions := d.exclusions?.getD rules.exclusions
      regions := d.regions?.getD rules.regions }
    match d.packers? with
    | none => (rules, .ok ())
    | some p =>
      match Packers.ofTexts p.names p.patterns with
      | .error e => (rules, .error e)
      | .ok packers => ({ rules with packers }, .ok ())

inductive Format where
  | json
  | yaml
  deriving DecidableEq, Repr

def Format.ofExtension? : String → Option Format
  | "json" => some .json
  | "yaml" | "yml" => some .yaml
  | _ => none

def readDocument (path : Path) (text : String) : Format → Except RulesError Rules.Document
  | .json =>
    match Rules.Document.ofJson text with
    | .ok d => .ok d
    | .error e => .error (.malformed path e.message)
  | .yaml =>
    match Rules.Document.ofYaml? text with
    | some d => .ok d
    | none => .error (.malformed path "the text is no document of rules")

/-- The document in a file with the given contents. Its text is looked at before its name. -/
def documentIn (path : Path) (contents : Except OsError ByteArray) :
    Except RulesError Rules.Document :=
  match contents with
  | .error e => .error (.unreadable path e.message)
  | .ok bytes =>
    match Text.decode? bytes with
    | none => .error (.unreadable path OsError.notUtf8.message)
    | some text =>
      let extension := path.extension?.getD ""
      match Format.ofExtension? extension with
      | none => .error (.unsupportedFormat extension)
      | some format => readDocument path text format

def load (rules : RuleSet) (path : Path) (contents : Except OsError ByteArray) :
    RuleSet × Except RulesError Unit :=
  match documentIn path contents with
  | .error e => (rules, .error e)
  | .ok d => rules.replace d

end RuleSet

end CryptoSurvey
