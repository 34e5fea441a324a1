import CryptoSurvey.Json.Decode
import CryptoSurvey.Matching.Exclusion
import CryptoSurvey.Yaml.Decode

namespace CryptoSurvey.Rules

open Json (Field Shape Reader)

/-- An algorithm as it is written, with its constants in hexadecimal digits. -/
structure AlgorithmEntry where
  name : String
  aliases : List String
  constants : List (String × String)
  deriving DecidableEq

structure PackerEntry where
  names : List String
  patterns : List String
  deriving DecidableEq

/-- A document of rules; a part that is missing keeps its value. -/
structure Document where
  algorithms? : Option (List AlgorithmEntry)
  exclusions? : Option Exclusions
  regions? : Option (List String)
  packers? : Option PackerEntry
  deriving DecidableEq

structure AlgorithmDraft where
  name? : Option String := none
  aliases? : Option (List String) := none
  constants? : Option (List (String × String)) := none

def algorithmShape : Shape AlgorithmDraft AlgorithmEntry where
  name := "AlgorithmEntry"
  fields :=
    [.of "name" false (·.name?) (fun d v => { d with name? := some v }) Reader.text,
     .of "aliases" true (·.aliases?) (fun d v => { d with aliases? := some v })
      (Reader.list Reader.text),
     .of "constants" true (·.constants?) (fun d v => { d with constants? := some v })
      (Reader.members Reader.text)]
  start := {}
  finish d := do
    return { name := ← Json.required "name" d.name?,
             aliases := d.aliases?.getD [],
             constants := d.constants?.getD [] }

structure PackerDraft where
  names? : Option (List String) := none
  patterns? : Option (List String) := none

def packerShape : Shape PackerDraft PackerEntry where
  name := "PackerEntry"
  fields :=
    [.of "names" true (·.names?) (fun d v => { d with names? := some v }) (Reader.list Reader.text),
     .of "patterns" true (·.patterns?) (fun d v => { d with patterns? := some v })
      (Reader.list Reader.text)]
  start := {}
  finish d := .ok { names := d.names?.getD [], patterns := d.patterns?.getD [] }

structure ExclusionDraft where
  certificateMarkers? : Option (List String) := none
  lengthThreshold? : Option Nat := none
  base64MinLength? : Option Nat := none
  denylist? : Option (List String) := none

/-- The filters of a draft; those that are missing have their standard values. -/
def ExclusionDraft.finish (d : ExclusionDraft) : Exclusions :=
  let standard : Exclusions := {}
  { certificateMarkers := d.certificateMarkers?.getD standard.certificateMarkers
    lengthThreshold := d.lengthThreshold?.getD standard.lengthThreshold
    base64MinLength := d.base64MinLength?.getD standard.base64MinLength
    denylist := d.denylist?.getD standard.denylist }

def exclusionShape : Shape ExclusionDraft Exclusions where
  name := "ExclusionConfig"
  fields :=
    [.of "certificate_markers" true (·.certificateMarkers?)
      (fun d v => { d with certificateMarkers? := some v }) (Reader.list Reader.text),
     .of "certificate_length_threshold" true (·.lengthThreshold?)
      (fun d v => { d with lengthThreshold? := some v }) Reader.size,
     .of "base64_min_length" true (·.base64MinLength?)
      (fun d v => { d with base64MinLength? := some v }) Reader.size,
     .of "denylist" true (·.denylist?) (fun d v => { d with denylist? := some v })
      (Reader.list Reader.text)]
  start := {}
  finish d := .ok d.finish

structure DocumentDraft where
  version? : Option (Option String) := none
  algorithms? : Option (Option (List AlgorithmEntry)) := none
  exclusions? : Option (Option Exclusions) := none
  regions? : Option (Option (List String)) := none
  packers? : Option (Option PackerEntry) := none

def documentShape : Shape DocumentDraft Document where
  name := "RulesFile"
  fields :=
    [.of "version" true (·.version?) (fun d v => { d with version? := some v })
      (Reader.optional Reader.text),
     .of "algorithms" false (·.algorithms?) (fun d v => { d with algorithms? := some v })
      (Reader.optional (Reader.list algorithmShape.reader)),
     .of "exclusions" false (·.exclusions?) (fun d v => { d with exclusions? := some v })
      (Reader.optional exclusionShape.reader),
     .of "regions" false (·.regions?) (fun d v => { d with regions? := some v })
      (Reader.optional (Reader.list Reader.text)),
     .of "packers" false (·.packers?) (fun d v => { d with packers? := some v })
      (Reader.optional packerShape.reader)]
  start := {}
  finish d :=
    .ok { algorithms? := d.algorithms?.getD none, exclusions? := d.exclusions?.getD none,
          regions? := d.regions?.getD none, packers? := d.packers?.getD none }

def Document.ofJson (text : String) : Except Json.Error Document :=
  Json.document documentShape.reader text

open Yaml (Node Decoder)

def textsOf : Node → Decoder (List String) :=
  Node.list Node.text

def algorithmOf (n : Node) : Decoder AlgorithmEntry := do
  let fields ← n.fields ["name", "aliases", "constants"]
  return { name := ← Node.required fields "name" Node.text,
           aliases := ← Node.field fields "aliases" [] textsOf,
           constants := ← Node.field fields "constants" [] (Node.members Node.text) }

def packersOf (n : Node) : Decoder PackerEntry := do
  let fields ← n.fields ["names", "patterns"]
  return { names := ← Node.field fields "names" [] textsOf,
           patterns := ← Node.field fields "patterns" [] textsOf }

def exclusionsOf (n : Node) : Decoder Exclusions := do
  let fields ← n.fields
    ["certificate_markers", "certificate_length_threshold", "base64_min_length", "denylist"]
  let standard : Exclusions := {}
  return {
    certificateMarkers :=
      ← Node.field fields "certificate_markers" standard.certificateMarkers textsOf
    lengthThreshold :=
      ← Node.field fields "certificate_length_threshold" standard.lengthThreshold Node.size
    base64MinLength := ← Node.field fields "base64_min_length" standard.base64MinLength Node.size
    denylist := ← Node.field fields "denylist" standard.denylist textsOf }

def documentOf (n : Node) : Decoder Document := do
  let fields ← n.fields ["version", "algorithms", "exclusions", "regions", "packers"]
  let part {α : Type} (name : String) (value : Node → Decoder α) : Decoder (Option α) :=
    Node.field fields name none (Node.optional value)
  let _ ← part "version" Node.text
  return { algorithms? := ← part "algorithms" (Node.list algorithmOf),
           exclusions? := ← part "exclusions" exclusionsOf,
           regions? := ← part "regions" textsOf,
           packers? := ← part "packers" packersOf }

/-- The rules that a YAML text describes; an empty text describes none. -/
def Document.ofYaml? (text : String) : Option Document := do
  match ← Yaml.Document.parse? text with
  | some d => d.decode? documentOf
  | none => some ⟨none, none, none, none⟩

end CryptoSurvey.Rules
