import CryptoSurvey.ByteOrder
import CryptoSurvey.Yaml.Node

namespace CryptoSurvey.Yaml

structure Scope where
  anchored : List (Nat × Node)
  limit : Nat

abbrev Decoder := ReaderT Scope (StateT Nat Option)

/-- A value read from the root of a document. Aliases may be followed a hundred times for every step in
which the document is written. -/
def Document.decode? {α : Type} (d : Document) (value : Node → Decoder α) : Option α :=
  (((value d.root).run ⟨d.anchored, 100 * d.root.steps⟩).run 0).map (·.1)

namespace Node

variable {α : Type}

def follow : Node → Decoder Node
  | .alias number => do
    let scope ← read
    let count ← get
    if count ≥ scope.limit then failure
    set (count + 1)
    match scope.anchored.lookup number with
    | some n => return n
    | none => failure
  | n => return n

def isAbsent : Node → Bool
  | .scalar text .plain _ => text.isEmpty
  | _ => false

def isNullText (text : String) : Bool :=
  text == "null" || text == "Null" || text == "NULL" || text == "~"

def text (n : Node) : Decoder String := do
  match ← n.follow with
  | .scalar text _ _ => return text
  | _ => failure

def natural? (base : Nat) (digits : List Char) : Option Nat := do
  if digits.isEmpty then none
  let value ← digits.foldlM (fun n c => do
    let d ← hexDigit? c
    if d < base then some (base * n + d) else none) 0
  if value < wordLimit then some value else none

/-- Decimal digits; a number of several digits does not start with a zero. -/
def decimal? (digits : List Char) : Option Nat :=
  if digits.length > 1 && digits.head? == some '0' then none else natural? 10 digits

def sizeOfText? (text : String) : Option Nat :=
  let digits := match text.toList with
    | '+' :: rest => rest
    | cs => cs
  match digits with
  | '0' :: 'x' :: rest => natural? 16 rest
  | '0' :: 'o' :: rest => natural? 8 rest
  | '0' :: 'b' :: rest => natural? 2 rest
  | cs => decimal? cs

def size (n : Node) : Decoder Nat := do
  match ← n.follow with
  | .scalar text style tag =>
    if style == .plain || (style == .literal && tag == some "tag:yaml.org,2002:int") then
      match sizeOfText? text with
      | some n => return n
      | none => failure
    else failure
  | _ => failure

/-- A plain scalar may stand for nothing; if its tag says so it must. -/
def optional (item : Node → Decoder α) (n : Node) : Decoder (Option α) := do
  let n ← n.follow
  match n with
  | .scalar text .plain none =>
    if text.isEmpty || isNullText text then return none else some <$> item n
  | .scalar text .plain (some tag) =>
    if tag != "tag:yaml.org,2002:null" then some <$> item n
    else if isNullText text then return none
    else failure
  | n => some <$> item n

def list (item : Node → Decoder α) (n : Node) : Decoder (List α) := do
  match ← n.follow with
  | .sequence items => items.mapM item
  | n => if n.isAbsent then return [] else failure

def members (value : Node → Decoder α) (n : Node) : Decoder (List (String × α)) := do
  match ← n.follow with
  | .mapping pairs => pairs.mapM fun p => do return (← p.1.text, ← value p.2)
  | n => if n.isAbsent then return [] else failure

/-- The fields of a record that are given, each at most once. Other fields do not count. -/
def fields (names : List String) (n : Node) : Decoder (List (String × Node)) := do
  match ← n.follow with
  | .mapping pairs => do
    let given ← pairs.mapM fun p => do return (← p.1.text, p.2)
    let known := given.filter fun p => names.contains p.1
    if (known.map (·.1)).Nodup then return known else failure
  | n => if n.isAbsent then return [] else failure

def field (fields : List (String × Node)) (name : String) (default : α)
    (value : Node → Decoder α) : Decoder α :=
  match fields.lookup name with
  | some n => value n
  | none => return default

def required (fields : List (String × Node)) (name : String) (value : Node → Decoder α) :
    Decoder α :=
  match fields.lookup name with
  | some n => value n
  | none => failure

end Node

end CryptoSurvey.Yaml
