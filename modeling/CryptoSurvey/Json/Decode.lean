import CryptoSurvey.Json.Skip

namespace CryptoSurvey.Json

variable {α σ : Type}

def Reader.text : Reader String := fun s =>
  match skipSpace s with
  | [] => .error .endInValue
  | '"' :: rest => textBody rest
  | s => .error (mismatch "a string" s)

def Reader.boolean : Reader Bool := fun s =>
  match skipSpace s with
  | [] => .error .endInValue
  | 't' :: rest => do return (true, ← word ['r', 'u', 'e'] rest)
  | 'f' :: rest => do return (false, ← word ['a', 'l', 's', 'e'] rest)
  | s => .error (mismatch "a boolean" s)

def Reader.size : Reader Nat := fun s =>
  let ofNumber (r : Except Error (Number × List Char)) : Except Error (Nat × List Char) := do
    match ← r with
    | (.natural n, rest) => return (n, rest)
    | (.negative n, _) => .error (.wrongValue (.integer n) "usize")
    | (.float f, _) => .error (.wrongType (.float f) "usize")
  match skipSpace s with
  | [] => .error .endInValue
  | c :: rest =>
    if c == '-' then ofNumber (number false rest)
    else if c.isDigit then ofNumber (number true (c :: rest))
    else .error (mismatch "usize" (c :: rest))

def Reader.optional (item : Reader α) : Reader (Option α) := fun s =>
  match skipSpace s with
  | 'n' :: rest => do return (none, ← word ['u', 'l', 'l'] rest)
  | s => do
    let (a, rest) ← item s
    return (some a, rest)

def nextItem? (first : Bool) (s : List Char) : Except Error (Option (List Char)) :=
  match skipSpace s with
  | [] => .error .endInList
  | ']' :: _ => .ok none
  | c :: rest =>
    if first then .ok (some (c :: rest))
    else if c == ',' then
      match skipSpace rest with
      | [] => .error .endInValue
      | ']' :: _ => .error .trailingComma
      | rest => .ok (some rest)
    else .error .noListEnd

def listEnd (s : List Char) : Except Error (List Char) :=
  match skipSpace s with
  | [] => .error .endInList
  | ']' :: rest => .ok rest
  | ',' :: rest => .error (if (skipSpace rest).head? == some ']' then .trailingComma else
      .trailingCharacters)
  | _ => .error .trailingCharacters

/-- Reads items up to the end of a list, in at most as many steps as there are characters. -/
def itemsFrom (item : Reader α) : Nat → Bool → List Char → Except Error (List α × List Char)
  | 0, _, _ => .error .endInList
  | n + 1, first, s => do
    match ← nextItem? first s with
    | none => return ([], s)
    | some s =>
      let (a, rest) ← item s
      let (as, rest) ← itemsFrom item n false rest
      return (a :: as, rest)

def Reader.list (item : Reader α) : Reader (List α) := fun s =>
  match skipSpace s with
  | [] => .error .endInValue
  | '[' :: rest => do
    let (as, rest) ← itemsFrom item (rest.length + 1) true rest
    return (as, ← listEnd rest)
  | s => .error (mismatch "a sequence" s)

/-- The next key of an object, with what follows its quote, if the object does not end. -/
def nextKey? (first : Bool) (s : List Char) : Except Error (Option (String × List Char)) :=
  let key (s : List Char) : Except Error (Option (String × List Char)) := do
    return some (← textBody s)
  match skipSpace s with
  | [] => .error .endInObject
  | '\x7d' :: _ => .ok none
  | c :: rest =>
    if first then if c == '"' then key rest else .error .keyNotText
    else if c == ',' then
      match skipSpace rest with
      | [] => .error .endInValue
      | '"' :: rest => key rest
      | '\x7d' :: _ => .error .trailingComma
      | _ => .error .keyNotText
    else .error .noObjectEnd

def colon (s : List Char) : Except Error (List Char) :=
  match skipSpace s with
  | [] => .error .endInObject
  | ':' :: rest => .ok rest
  | _ => .error .noColon

def objectEnd (s : List Char) : Except Error (List Char) :=
  match skipSpace s with
  | [] => .error .endInObject
  | '\x7d' :: rest => .ok rest
  | ',' :: _ => .error .trailingComma
  | _ => .error .trailingCharacters

/-- Reads members up to the end of an object. Each is read from its colon on, into what has been
gathered so far. -/
def membersFrom (member : String → σ → Reader σ) :
    Nat → Bool → σ → List Char → Except Error (σ × List Char)
  | 0, _, _, _ => .error .endInObject
  | n + 1, first, gathered, s => do
    match ← nextKey? first s with
    | none => return (gathered, s)
    | some (key, rest) =>
      let (gathered, rest) ← member key gathered rest
      membersFrom member n false gathered rest

def Reader.members (value : Reader α) : Reader (List (String × α)) := fun s =>
  match skipSpace s with
  | [] => .error .endInValue
  | '\x7b' :: rest => do
    let member (key : String) (done : List (String × α)) : Reader (List (String × α)) := fun s => do
      let (a, rest) ← value (← colon s)
      return ((key, a) :: done, rest)
    let (done, rest) ← membersFrom member (rest.length + 1) true [] rest
    return (done.reverse, ← objectEnd rest)
  | s => .error (mismatch "a map" s)

structure Field (σ : Type) where
  name : String
  /-- The list form of the record may end before the field. -/
  optional : Bool
  isSet : σ → Bool
  read : σ → Reader σ

def Field.of (name : String) (optional : Bool) (get : σ → Option α) (set : σ → α → σ)
    (value : Reader α) : Field σ where
  name := name
  optional := optional
  isSet gathered := (get gathered).isSome
  read gathered := fun s => do
    let (a, rest) ← value s
    return (set gathered a, rest)

/-- A record with named fields, written as an object or as the list of its fields. -/
structure Shape (σ α : Type) where
  name : String
  fields : List (Field σ)
  start : σ
  finish : σ → Except Error α

def required (name : String) : Option α → Except Error α
  | some a => .ok a
  | none => .error (.missingField name)

namespace Shape

/-- Reads one member; one that no field has the name of is passed over. -/
def member (shape : Shape σ α) (key : String) (gathered : σ) : Reader σ := fun s =>
  match shape.fields.find? (·.name == key) with
  | some field =>
    if field.isSet gathered then .error (.repeatedField key)
    else do field.read gathered (← colon s)
  | none => do return (gathered, ← skip (← colon s))

def fieldsFrom (shape : Shape σ α) (i : Nat) (first : Bool) (gathered : σ) :
    List (Field σ) → Reader σ
  | [], s => .ok (gathered, s)
  | field :: fields, s => do
    match ← nextItem? first s with
    | some s =>
      let (gathered, rest) ← field.read gathered s
      fieldsFrom shape (i + 1) false gathered fields rest
    | none =>
      if field.optional then fieldsFrom shape (i + 1) first gathered fields s
      else .error (.wrongLength i shape.name shape.fields.length)

def reader (shape : Shape σ α) : Reader α := fun s =>
  match skipSpace s with
  | [] => .error .endInValue
  | '[' :: rest => do
    let (gathered, rest) ← shape.fieldsFrom 0 true shape.start shape.fields rest
    let a ← shape.finish gathered
    return (a, ← listEnd rest)
  | '\x7b' :: rest => do
    let (gathered, rest) ← membersFrom shape.member (rest.length + 1) true shape.start rest
    let a ← shape.finish gathered
    return (a, ← objectEnd rest)
  | s => .error (mismatch ("struct " ++ shape.name) s)

end Shape

def document (value : Reader α) (s : String) : Except Error α := do
  let (a, rest) ← value s.toList
  if (skipSpace rest).isEmpty then return a else .error .trailingCharacters

end CryptoSurvey.Json
