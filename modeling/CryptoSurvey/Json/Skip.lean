import CryptoSurvey.Json.Reader

namespace CryptoSurvey.Json

def skipEscape : List Char → Except Error (List Char)
  | [] => .error .endInText
  | 'u' :: rest => do
    let _ ← codeUnit rest
    return rest.drop 4
  | c :: rest => if (shortEscape? c).isSome then .ok rest else .error .badEscape

/-- Passes over a text up to its closing quote, in at most as many steps as it has characters. -/
def skipTextFrom : Nat → List Char → Except Error (List Char)
  | 0, _ => .error .endInText
  | _, [] => .error .endInText
  | n + 1, c :: rest =>
    if c == '"' then .ok rest
    else if c == '\\' then do skipTextFrom n (← skipEscape rest)
    else if c.toNat < 0x20 then .error .controlCharacter
    else skipTextFrom n rest

def skipText (s : List Char) : Except Error (List Char) :=
  skipTextFrom s.length s

def skipExponent (s : List Char) : Except Error (List Char) :=
  let s := match s with
    | '+' :: rest => rest
    | '-' :: rest => rest
    | _ => s
  match digits s with
  | ([], _) => .error .badNumber
  | (_, rest) => .ok rest

def skipFraction (s : List Char) : Except Error (List Char) :=
  match s with
  | '.' :: rest =>
    match digits rest with
    | ([], _) => .error .badNumber
    | (_, 'e' :: rest) => skipExponent rest
    | (_, 'E' :: rest) => skipExponent rest
    | (_, rest) => .ok rest
  | 'e' :: rest => skipExponent rest
  | 'E' :: rest => skipExponent rest
  | _ => .ok s

def skipNumber (s : List Char) : Except Error (List Char) :=
  match s with
  | '0' :: rest =>
    if (rest.head?.map Char.isDigit).getD false then .error .badNumber else skipFraction rest
  | _ =>
    match digits s with
    | ([], _) => .error .badNumber
    | (_, rest) => skipFraction rest

inductive Bracket where
  | list
  | object
  deriving DecidableEq

def skipKey (s : List Char) : Except Error (List Char) :=
  match skipSpace s with
  | [] => .error .endInObject
  | '"' :: rest => do
    match skipSpace (← skipText rest) with
    | [] => .error .endInObject
    | ':' :: rest => return rest
    | _ => .error .noColon
  | _ => .error .keyNotText

def skipToValue : Bracket → List Char → Except Error (List Char)
  | .list, s => .ok s
  | .object, s => skipKey s

mutual

def skipValue : Nat → List Bracket → List Char → Except Error (List Char)
  | 0, _, _ => .error .endInValue
  | n + 1, stack, s =>
    match skipSpace s with
    | [] => .error .endInValue
    | c :: rest =>
      let thenClose (r : Except Error (List Char)) : Except Error (List Char) := do
        skipClosing n true stack (← r)
      if c == 'n' then thenClose (word ['u', 'l', 'l'] rest)
      else if c == 't' then thenClose (word ['r', 'u', 'e'] rest)
      else if c == 'f' then thenClose (word ['a', 'l', 's', 'e'] rest)
      else if c == '-' then thenClose (skipNumber rest)
      else if c.isDigit then thenClose (skipNumber (c :: rest))
      else if c == '"' then thenClose (skipText rest)
      else if c == '[' then skipClosing n false (.list :: stack) rest
      else if c == '\x7b' then skipClosing n false (.object :: stack) rest
      else .error .noValue

/-- Passes over closing brackets up to the next value. After a value a comma has to come first. -/
def skipClosing : Nat → Bool → List Bracket → List Char → Except Error (List Char)
  | 0, _, _, _ => .error .endInValue
  | _, _, [], s => .ok s
  | n + 1, afterValue, b :: stack, s =>
    match skipSpace s with
    | [] => .error (if b == .list then .endInList else .endInObject)
    | c :: rest =>
      if c == ',' && afterValue then do skipValue n (b :: stack) (← skipToValue b rest)
      else if c == ']' && b == .list || c == '\x7d' && b == .object then
        skipClosing n true stack rest
      else if afterValue then .error (if b == .list then .noListEnd else .noObjectEnd)
      else do skipValue n (b :: stack) (← skipToValue b (c :: rest))

end

def skip (s : List Char) : Except Error (List Char) :=
  skipValue (2 * s.length + 2) [] s

end CryptoSurvey.Json
