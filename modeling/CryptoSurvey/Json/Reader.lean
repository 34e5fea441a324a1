import CryptoSurvey.Json.Error

namespace CryptoSurvey.Json

abbrev Reader (α : Type) := List Char → Except Error (α × List Char)

def isSpace (c : Char) : Bool :=
  c == ' ' || c == '\n' || c == '\t' || c == '\r'

def skipSpace (s : List Char) : List Char :=
  s.dropWhile isSpace

def word : List Char → List Char → Except Error (List Char)
  | [], s => .ok s
  | _ :: _, [] => .error .endInValue
  | c :: cs, d :: rest => if c == d then word cs rest else .error .noWord

def hexValue? (c : Char) : Option Nat :=
  if c.isDigit then some (c.toNat - 0x30)
  else if 'a' ≤ c && c ≤ 'f' then some (c.toNat - 0x57)
  else if 'A' ≤ c && c ≤ 'F' then some (c.toNat - 0x37)
  else none

/-- The code unit of an escape, from the four digits at the front of a text. Whether the text ends too
early is told by its bytes. -/
def codeUnit (s : List Char) : Except Error Nat :=
  if (s.take 4).foldl (fun n c => n + c.utf8Size) 0 < 4 then .error .endInText
  else match (s.take 4).mapM hexValue? with
    | some [a, b, c, d] => .ok (((a * 16 + b) * 16 + c) * 16 + d)
    | _ => .error .badEscape

def shortEscape? (c : Char) : Option Char :=
  if c == '"' || c == '\\' || c == '/' then some c
  else if c == 'b' then some '\x08'
  else if c == 'f' then some '\x0c'
  else if c == 'n' then some '\n'
  else if c == 'r' then some '\r'
  else if c == 't' then some '\t'
  else none

def isLeadSurrogate (n : Nat) : Bool :=
  0xD800 ≤ n && n ≤ 0xDBFF

def isTrailSurrogate (n : Nat) : Bool :=
  0xDC00 ≤ n && n ≤ 0xDFFF

/-- Reads the digits of an escape, of two escapes if the first is half of a character. -/
def unicodeEscape (s : List Char) : Except Error (Char × List Char) := do
  let n ← codeUnit s
  if isTrailSurrogate n then .error .loneSurrogate
  else if !isLeadSurrogate n then .ok (Char.ofNat n, s.drop 4)
  else match s.drop 4 with
    | [] => .error .endInText
    | '\\' :: [] => .error .endInText
    | '\\' :: 'u' :: rest => do
      let m ← codeUnit rest
      if isTrailSurrogate m then
        .ok (Char.ofNat (0x10000 + (n - 0xD800) * 0x400 + (m - 0xDC00)), rest.drop 4)
      else .error .loneSurrogate
    | _ => .error .brokenSurrogates

def escaped : List Char → Except Error (Char × List Char)
  | [] => .error .endInText
  | 'u' :: rest => unicodeEscape rest
  | c :: rest =>
    match shortEscape? c with
    | some d => .ok (d, rest)
    | none => .error .badEscape

/-- Reads a text up to its closing quote. Every step takes a character at least, so as many steps as
there are characters suffice. -/
def textFrom : Nat → List Char → List Char → Except Error (String × List Char)
  | 0, _, _ => .error .endInText
  | _, _, [] => .error .endInText
  | n + 1, done, c :: rest =>
    if c == '"' then .ok (String.ofList done.reverse, rest)
    else if c == '\\' then do
      let (d, rest) ← escaped rest
      textFrom n (d :: done) rest
    else if c.toNat < 0x20 then .error .controlCharacter
    else textFrom n (c :: done) rest

def textBody : Reader String := fun s =>
  textFrom s.length [] s

/-- A number as it is stored: an unsigned or a negative word, or a double. -/
inductive Number where
  | natural (value : Nat)
  | negative (value : Int)
  | float (value : Float)

def maxWord : Nat := 0xffffffffffffffff

def powerOfTen (n : Nat) : Float :=
  Float.ofScientific 1 false n

/-- A double divided by powers of ten, no step of which exceeds the greatest. -/
def shrink : Nat → Float → Nat → Float
  | 0, f, _ => f
  | steps + 1, f, n =>
    if n ≤ 308 then f / powerOfTen n
    else if f == 0 then f
    else shrink steps (f / powerOfTen 308) (n - 308)

def scaled (significand : Nat) (exponent : Int) : Except Error Float :=
  let f := significand.toUInt64.toFloat
  if exponent < 0 then .ok (shrink 8 f exponent.natAbs)
  else if exponent ≤ 308 then
    let g := f * powerOfTen exponent.toNat
    if g.isInf then .error .numberTooLarge else .ok g
  else if f == 0 then .ok f
  else .error .numberTooLarge

def digitValue (c : Char) : Nat :=
  c.toNat - 0x30

/-- Takes digits into a significand as long as it stays a word; the rest only counts. -/
def significandFrom (value : Nat) : List Char → Nat × Nat × Bool
  | [] => (value, 0, false)
  | c :: rest =>
    if 10 * value + digitValue c ≤ maxWord then
      let (v, n, full) := significandFrom (10 * value + digitValue c) rest
      (v, n + 1, full)
    else (value, 0, true)

def digits (s : List Char) : List Char × List Char :=
  (s.takeWhile Char.isDigit, s.dropWhile Char.isDigit)

def exponentPart (significand : Nat) (exponent : Int) (s : List Char) :
    Except Error (Float × List Char) :=
  let (positive, s) := match s with
    | '+' :: rest => (true, rest)
    | '-' :: rest => (false, rest)
    | _ => (true, s)
  match s with
  | [] => .error .endInValue
  | c :: _ =>
    if !c.isDigit then .error .badNumber
    else do
      let (ds, rest) := digits s
      let size := ds.foldl (fun n d => 10 * n + digitValue d) 0
      if size > 0x7fffffff then
        if significand != 0 && positive then .error .numberTooLarge else .ok (0, rest)
      else do
        let total := if positive then exponent + size else exponent - size
        return (← scaled significand total, rest)

def floatEnd (significand : Nat) (exponent : Int) (s : List Char) :
    Except Error (Float × List Char) :=
  match s with
  | 'e' :: rest => exponentPart significand exponent rest
  | 'E' :: rest => exponentPart significand exponent rest
  | _ => do return (← scaled significand exponent, s)

def fractionPart (significand : Nat) (exponent : Int) (s : List Char) :
    Except Error (Float × List Char) :=
  let (ds, rest) := digits s
  match ds with
  | [] => .error (if rest.isEmpty then .endInValue else .badNumber)
  | _ :: _ =>
    let (value, taken, _) := significandFrom significand ds
    floatEnd value (exponent - taken) rest

/-- Reads the number whose integer part has been taken into a significand, with `dropped` digits that
did not fit. -/
def numberEnd (positive : Bool) (significand dropped : Nat) (full : Bool) (s : List Char) :
    Except Error (Number × List Char) := do
  let signed (f : Float) : Number := .float (if positive then f else -f)
  match s with
  | '.' :: rest =>
    let (f, rest) ← fractionPart significand dropped rest
    return (signed f, rest)
  | _ =>
    if full || s.head? == some 'e' || s.head? == some 'E' then
      let (f, rest) ← floatEnd significand dropped s
      return (signed f, rest)
    else if positive then return (.natural significand, s)
    else if significand == 0 || significand > 0x8000000000000000 then
      return (.float (-significand.toUInt64.toFloat), s)
    else return (.negative (-significand), s)

def number (positive : Bool) (s : List Char) : Except Error (Number × List Char) :=
  match s with
  | [] => .error .endInValue
  | c :: rest =>
    if c == '0' then
      if (rest.head?.map Char.isDigit).getD false then .error .badNumber
      else numberEnd positive 0 0 false rest
    else if c.isDigit then
      let (ds, rest) := digits s
      let (value, taken, full) := significandFrom 0 ds
      numberEnd positive value (ds.length - taken) full rest
    else .error .badNumber

def Number.found : Number → Found
  | .natural n => .integer n
  | .negative n => .integer n
  | .float f => .float f

/-- The fault of a value of another type than is wanted; a fault of the value itself comes first. -/
def mismatch (expected : String) (s : List Char) : Error :=
  let wrong (found : Found) : Error := .wrongType found expected
  let ofWord (cs rest : List Char) (found : Found) : Error :=
    match word cs rest with
    | .ok _ => wrong found
    | .error e => e
  let ofNumber (r : Except Error (Number × List Char)) : Error :=
    match r with
    | .ok (n, _) => wrong n.found
    | .error e => e
  match s with
  | [] => .noValue
  | c :: rest =>
    if c == 'n' then ofWord ['u', 'l', 'l'] rest .null
    else if c == 't' then ofWord ['r', 'u', 'e'] rest (.boolean true)
    else if c == 'f' then ofWord ['a', 'l', 's', 'e'] rest (.boolean false)
    else if c == '-' then ofNumber (number false rest)
    else if c.isDigit then ofNumber (number true s)
    else if c == '"' then
      match textBody rest with
      | .ok (t, _) => wrong (.text t)
      | .error e => e
    else if c == '[' then wrong .list
    else if c == '\x7b' then wrong .object
    else .noValue

end CryptoSurvey.Json
