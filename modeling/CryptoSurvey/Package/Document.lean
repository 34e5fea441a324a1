import CryptoSurvey.Error
import CryptoSurvey.Hex
import CryptoSurvey.Json.Decode
import CryptoSurvey.Package.Basic
import CryptoSurvey.Text.Blank

namespace CryptoSurvey.Package

open Json (Field Shape Reader)

structure MethodEntry where
  name : String
  external : Bool
  code? : Option String

structure ClassEntry where
  name : String
  methods : List MethodEntry

structure Document where
  name? : Option String
  classes : List ClassEntry
  strings : List (String × List Location)

structure LocationDraft where
  className? : Option String := none
  method? : Option String := none

def locationShape : Shape LocationDraft Location where
  name := "MethodRef"
  fields :=
    [.of "class" false (·.className?) (fun d v => { d with className? := some v }) Reader.text,
     .of "method" false (·.method?) (fun d v => { d with method? := some v }) Reader.text]
  start := {}
  finish d := do
    return { className := ← Json.required "class" d.className?,
             method := ← Json.required "method" d.method? }

structure MethodDraft where
  name? : Option String := none
  external? : Option Bool := none
  code? : Option (Option String) := none

def methodShape : Shape MethodDraft MethodEntry where
  name := "MethodEntry"
  fields :=
    [.of "name" false (·.name?) (fun d v => { d with name? := some v }) Reader.text,
     .of "external" true (·.external?) (fun d v => { d with external? := some v }) Reader.boolean,
     .of "code" true (·.code?) (fun d v => { d with code? := some v }) (Reader.optional Reader.text)]
  start := {}
  finish d := do
    return { name := ← Json.required "name" d.name?,
             external := d.external?.getD false,
             code? := d.code?.getD none }

structure ClassDraft where
  name? : Option String := none
  methods? : Option (List MethodEntry) := none

def classShape : Shape ClassDraft ClassEntry where
  name := "ClassEntry"
  fields :=
    [.of "name" false (·.name?) (fun d v => { d with name? := some v }) Reader.text,
     .of "methods" true (·.methods?) (fun d v => { d with methods? := some v })
      (Reader.list methodShape.reader)]
  start := {}
  finish d := do
    return { name := ← Json.required "name" d.name?, methods := d.methods?.getD [] }

structure DocumentDraft where
  name? : Option (Option String) := none
  classes? : Option (List ClassEntry) := none
  strings? : Option (List (String × List Location)) := none

def documentShape : Shape DocumentDraft Document where
  name := "PackageDocument"
  fields :=
    [.of "package" true (·.name?) (fun d v => { d with name? := some v })
      (Reader.optional Reader.text),
     .of "classes" true (·.classes?) (fun d v => { d with classes? := some v })
      (Reader.list classShape.reader),
     .of "strings" true (·.strings?) (fun d v => { d with strings? := some v })
      (Reader.members (Reader.list locationShape.reader))]
  start := {}
  finish d :=
    .ok { name? := d.name?.getD none, classes := d.classes?.getD [], strings := d.strings?.getD [] }

/-- Why a document cannot be used: its text, or the code of one of its methods. -/
inductive DocumentError where
  | text (error : Json.Error)
  | code (className method : String) (error : HexError)

def DocumentError.message : DocumentError → String
  | .text error => error.message
  | .code className method error => s!"{className}->{method}: " ++ error.message

/-- The method that an entry of a class describes. Blanks around its code do not count. -/
def methodOf (className : String) (entry : MethodEntry) : Except DocumentError CodeMethod := do
  let code ← match entry.code? with
    | none => pure none
    | some digits =>
      match Hex.decode (Text.trim digits) with
      | .ok bytes => pure (some bytes)
      | .error e => .error (.code className entry.name e)
  return { name := entry.name, external := entry.external, code }

def classOf (entry : ClassEntry) : Except DocumentError CodeClass := do
  return { name := entry.name, methods := ← entry.methods.mapM (methodOf entry.name) }

/-- The package that a document describes. Of two lists for one string the later counts. -/
def ofDocument (d : Document) : Except DocumentError Package := do
  return { name? := d.name?,
           classes := ← d.classes.mapM classOf,
           strings := .ofReferences (OrderedMap.ofList d.strings).entries }

def parse (content : String) : Except DocumentError Package :=
  match Json.document documentShape.reader content with
  | .ok d => ofDocument d
  | .error e => .error (.text e)

def read (content : String) (origin : Path) : Except InputError Package :=
  match parse content with
  | .ok p => .ok p
  | .error e => .error (.badDecompiledCode origin.text e.message)

end CryptoSurvey.Package
