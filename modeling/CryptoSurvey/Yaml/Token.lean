import CryptoSurvey.Yaml.Scalar

namespace CryptoSurvey.Yaml

inductive Token where
  | version (major minor : Nat)
  /-- A handle that tags may start with, and what it stands for. -/
  | tagDirective (handle meaning : String)
  | documentStart
  | documentEnd
  | sequenceStart
  | mappingStart
  | blockEnd
  | flowSequenceStart
  | flowSequenceEnd
  | flowMappingStart
  | flowMappingEnd
  | entry
  | flowEntry
  | key
  | value
  | alias (name : String)
  | anchor (name : String)
  | tag (handle suffix : String)
  | scalar (text : String) (style : ScalarStyle)
  | streamEnd
  deriving DecidableEq, Repr

/-- A token that may turn out to be a key: the number of tokens before it and its place. A key is
required if nothing else can stand at its place. -/
structure PossibleKey where
  required : Bool
  position : Nat
  mark : Mark

structure Lexer where
  cursor : Cursor
  tokens : Array Token := #[]
  /-- The columns of the open block collections, innermost first. -/
  indents : List Nat := []
  keyAllowed : Bool := true
  /-- The possible key outside flow collections. -/
  outerKey? : Option PossibleKey := none
  /-- The possible key of each open flow collection, innermost first. -/
  flowKeys : List (Option PossibleKey) := []

namespace Lexer

def inFlow (l : Lexer) : Bool :=
  !l.flowKeys.isEmpty

def key? (l : Lexer) : Option PossibleKey :=
  match l.flowKeys with
  | k :: _ => k
  | [] => l.outerKey?

def setKey (l : Lexer) (k? : Option PossibleKey) : Lexer :=
  match l.flowKeys with
  | _ :: ks => { l with flowKeys := k? :: ks }
  | [] => { l with outerKey? := k? }

def push (l : Lexer) (t : Token) : Lexer :=
  { l with tokens := l.tokens.push t }

def insertAt (l : Lexer) (position : Nat) (t : Token) : Lexer :=
  { l with tokens := l.tokens.insertIdxIfInBounds position t }

def skip (l : Lexer) (n : Nat) : Lexer :=
  { l with cursor := l.cursor.skip n }

def allowKey (l : Lexer) (allowed : Bool) : Lexer :=
  { l with keyAllowed := allowed }

/-- Passes over gaps, comments and ends of lines, and says whether a key is allowed then. A byte order
mark may start a line, and takes up a column of it. -/
def toTokenFrom (inFlow keyAllowed comment : Bool) (m : Mark) : List Char → Bool × Cursor
  | [] => (keyAllowed, ⟨[], m⟩)
  | '\r' :: '\n' :: rest => toTokenFrom inFlow (keyAllowed || !inFlow) false (m.newLine 2) rest
  | c :: rest =>
    if isBreak c then toTokenFrom inFlow (keyAllowed || !inFlow) false (m.newLine 1) rest
    else if comment then toTokenFrom inFlow keyAllowed true (m.next c) rest
    else if c == '#' then toTokenFrom inFlow keyAllowed true (m.next c) rest
    else if c == ' ' || (c == '\t' && (inFlow || !keyAllowed)) || (c == '\ufeff' && m.column == 0) then
      toTokenFrom inFlow keyAllowed false (m.next c) rest
    else (keyAllowed, ⟨c :: rest, m⟩)

def toToken (l : Lexer) : Lexer :=
  let (keyAllowed, cursor) := toTokenFrom l.inFlow l.keyAllowed false l.cursor.mark l.cursor.rest
  { l with keyAllowed, cursor }

def isStale (l : Lexer) (k : PossibleKey) : Bool :=
  k.mark.line < l.cursor.mark.line || k.mark.index + 1024 < l.cursor.mark.index

/-- Drops a possible key that is no key any more; a required one must not be dropped. -/
def dropStale (l : Lexer) : Option PossibleKey → Option (Option PossibleKey)
  | none => some none
  | some k =>
    if !l.isStale k then some (some k) else if k.required then none else some none

def dropStaleKeys? (l : Lexer) : Option Lexer := do
  let outerKey? ← l.dropStale l.outerKey?
  let flowKeys ← l.flowKeys.mapM l.dropStale
  return { l with outerKey?, flowKeys }

/-- Ends the block collections that are indented more than `column`, or all of them. -/
def unroll (column? : Option Nat) (l : Lexer) : Lexer :=
  if l.inFlow then l
  else
    let ended := l.indents.takeWhile fun i => column?.all (· < i)
    { l with
      indents := l.indents.drop ended.length
      tokens := l.tokens ++ (ended.map fun _ => Token.blockEnd).toArray }

/-- Starts a block collection at a column if that is indented more than the current one. -/
def roll (l : Lexer) (column position : Nat) (t : Token) : Lexer :=
  if l.inFlow || l.indents.head?.any (column ≤ ·) then l
  else { l.insertAt position t with indents := column :: l.indents }

def dropKey? (l : Lexer) : Option Lexer :=
  if l.key?.any (·.required) then none else some (l.setKey none)

def saveKey? (l : Lexer) : Option Lexer :=
  if l.keyAllowed then do
    let required := !l.inFlow && l.indents.head? == some l.cursor.mark.column
    let l ← l.dropKey?
    return l.setKey (some ⟨required, l.tokens.size, l.cursor.mark⟩)
  else some l

/-- A token of the given number of characters that ends all block collections. -/
def marker? (l : Lexer) (t : Token) (width : Nat) : Option Lexer := do
  let l ← (l.unroll none).dropKey?
  return ((l.allowKey false).push t).skip width

def flowStart? (l : Lexer) (t : Token) : Option Lexer := do
  let l ← l.saveKey?
  return (({ l with flowKeys := none :: l.flowKeys }.allowKey true).push t).skip 1

def flowEnd? (l : Lexer) (t : Token) : Option Lexer := do
  let l ← l.dropKey?
  return (({ l with flowKeys := l.flowKeys.drop 1 }.allowKey false).push t).skip 1

def flowEntry? (l : Lexer) : Option Lexer := do
  return (((← l.dropKey?).allowKey true).push .flowEntry).skip 1

def entry? (l : Lexer) : Option Lexer := do
  if !l.inFlow && !l.keyAllowed then none
  let l := l.roll l.cursor.mark.column l.tokens.size .sequenceStart
  return (((← l.dropKey?).allowKey true).push .entry).skip 1

def markedKey? (l : Lexer) : Option Lexer := do
  if !l.inFlow && !l.keyAllowed then none
  let l := l.roll l.cursor.mark.column l.tokens.size .mappingStart
  return (((← l.dropKey?).allowKey !l.inFlow).push .key).skip 1

/-- The colon before a value: it makes a key of the possible key, if there is one. -/
def value? (l : Lexer) : Option Lexer :=
  match l.key? with
  | some k =>
    let l := (l.insertAt k.position .key).roll k.mark.column k.position .mappingStart
    some ((((l.setKey none).allowKey false).push .value).skip 1)
  | none =>
    if !l.inFlow && !l.keyAllowed then none
    else
      let l := l.roll l.cursor.mark.column l.tokens.size .mappingStart
      some (((l.allowKey !l.inFlow).push .value).skip 1)

def endsAnchor (cs : List Char) : Bool :=
  endsWord cs || startsWithAny ['?', ':', ',', ']', '\x7d', '%', '@', '\x60'] cs

def anchor? (l : Lexer) (make : String → Token) : Option Lexer := do
  let l ← l.saveKey?
  let (name, c) := (l.cursor.skip 1).takeWhile isWordChar
  if name.isEmpty || !endsAnchor c.rest then none
  return { (l.allowKey false).push (make (String.ofList name)) with cursor := c }

/-- The bytes of an escape in a tag, which must be the encoding of one character. -/
def uriEscape? (cs : List Char) : Option (List Char × List Char) := do
  let byte? : List Char → Option (Nat × List Char)
    | '%' :: a :: b :: rest => do return (16 * (← hexDigit? a) + (← hexDigit? b), rest)
    | _ => none
  let (lead, rest) ← byte? cs
  let width ← if lead < 0x80 then some 1 else if 0xc0 ≤ lead && lead < 0xe0 then some 2
    else if 0xe0 ≤ lead && lead < 0xf0 then some 3
    else if 0xf0 ≤ lead && lead < 0xf8 then some 4 else none
  let (code, rest) ← (List.range (width - 1)).foldlM (fun (code, rest) _ => do
    let (b, rest) ← byte? rest
    if 0x80 ≤ b && b < 0xc0 then some (64 * code + (b - 0x80), rest) else none)
    (if width == 1 then lead else lead % Nat.pow 2 (7 - width), rest)
  return ([Char.ofNat code], rest)

def isUriChar (verbatim : Bool) (c : Char) : Bool :=
  isWordChar c || [';', '/', '?', ':', '@', '&', '=', '+', '$', '.', '%', '!', '~', '*', '\'', '(',
    ')'].contains c || (verbatim && (c == ',' || c == '[' || c == ']'))

/-- The characters of a tag in reverse; each step takes at least one. -/
def uriFrom (verbatim : Bool) : Nat → List Char → List Char → Option (List Char × List Char)
  | 0, _, _ => none
  | fuel + 1, done, cs =>
    match cs with
    | [] => some (done, [])
    | '%' :: _ => do
      let (x, rest) ← uriEscape? cs
      uriFrom verbatim fuel (x ++ done) rest
    | c :: rest =>
      if isUriChar verbatim c then uriFrom verbatim fuel (c :: done) rest
      else some (done, cs)

def uri? (verbatim : Bool) (head : List Char) (c : Cursor) : Option (String × Cursor) := do
  let (done, rest) ← uriFrom verbatim (c.rest.length + 1) [] c.rest
  if head.isEmpty && done.isEmpty then none
  return (String.ofList (head.drop 1 ++ done.reverse), c.skip (c.rest.length - rest.length))

/-- An exclamation mark and the word after it, with a second mark if there is one. -/
def tagHandle? (c : Cursor) : Option (List Char × Bool × Cursor) :=
  match c.rest with
  | '!' :: _ =>
    let (name, c) := (c.skip 1).takeWhile isWordChar
    if c.rest.head? == some '!' then some ('!' :: (name ++ ['!']), true, c.skip 1)
    else some ('!' :: name, false, c)
  | _ => none

def tag? (l : Lexer) : Option Lexer := do
  let l ← l.saveKey?
  let (handle, suffix, c) ← match l.cursor.rest with
    | '!' :: '<' :: _ => do
      let (suffix, c) ← uri? true [] (l.cursor.skip 2)
      if c.rest.head? != some '>' then none
      pure ("", suffix, c.skip 1)
    | _ => do
      let (handle, closed, c) ← tagHandle? l.cursor
      if closed then
        let (suffix, c) ← uri? false [] c
        pure (String.ofList handle, suffix, c)
      else
        let (suffix, c) ← uri? false handle c
        pure (if suffix.isEmpty then ("", "!", c) else ("!", suffix, c))
  if !endsWord c.rest && !(l.inFlow && c.rest.head? == some ',') then none
  return { (l.allowKey false).push (.tag handle suffix) with cursor := c }

def blockScalar? (l : Lexer) (literal : Bool) : Option Lexer := do
  let l ← l.dropKey?
  let (text, c) ← block? literal l.indents.head? (l.cursor.skip 1)
  let style := if literal then ScalarStyle.literal else .folded
  return { (l.allowKey true).push (.scalar text style) with cursor := c }

def quoted? (l : Lexer) (single : Bool) : Option Lexer := do
  let l ← l.saveKey?
  let c := l.cursor.skip 1
  let (text, c) ← if single then singleFrom {} c.mark c.rest else doubleFrom {} c.mark 0 0 c.rest
  return { (l.allowKey false).push (.scalar text .quoted) with cursor := c }

def plainScalar? (l : Lexer) : Option Lexer := do
  let l ← l.saveKey?
  let indent := (l.indents.head?.map (· + 1)).getD 0
  let (text, broken, c) ← plain? l.inFlow indent l.cursor
  return { (l.allowKey broken).push (.scalar text .plain) with cursor := c }

def digits? (c : Cursor) : Option (Nat × Cursor) :=
  let (ds, c) := c.takeWhile Char.isDigit
  if ds.isEmpty || ds.length > 9 then none
  else some (ds.foldl (fun n d => 10 * n + (d.toNat - '0'.toNat)) 0, c)

def directive? (l : Lexer) : Option Lexer := do
  let l ← (l.unroll none).dropKey?
  let (name, c) := (l.cursor.skip 1).takeWhile isWordChar
  if !endsWord c.rest then none
  let (t, c) ← match String.ofList name with
    | "YAML" => do
      let (major, c) ← digits? (c.skipWhile isGap)
      if c.rest.head? != some '.' then none
      let (minor, c) ← digits? (c.skip 1)
      pure (.version major minor, c)
    | "TAG" => do
      let (handle, closed, c) ← tagHandle? (c.skipWhile isGap)
      if !closed && handle.length > 1 then none
      if !c.rest.head?.any isGap then none
      let (meaning, c) ← uri? true [] (c.skipWhile isGap)
      if !endsWord c.rest then none
      pure (.tagDirective (String.ofList handle) meaning, c)
    | _ => none
  return { (l.allowKey false).push t with cursor := ← c.skipLineEnd? }

def indicators : List Char :=
  ['-', '?', ':', ',', '[', ']', '\x7b', '\x7d', '#', '&', '*', '!', '|', '>', '\'', '"', '%', '@',
   '\x60']

def token? (l : Lexer) (c : Char) (rest : List Char) : Option Lexer :=
  let plainAllowed := !indicators.contains c || (c == '-' && !rest.head?.any isGap) ||
    (!l.inFlow && (c == '?' || c == ':') && !endsWord rest)
  let plain := if plainAllowed && !isGap c then l.plainScalar? else none
  if l.cursor.mark.column == 0 && c == '%' then l.directive?
  else if l.cursor.atMarker '-' then l.marker? .documentStart 3
  else if l.cursor.atMarker '.' then l.marker? .documentEnd 3
  else match c with
    | '[' => l.flowStart? .flowSequenceStart
    | '\x7b' => l.flowStart? .flowMappingStart
    | ']' => l.flowEnd? .flowSequenceEnd
    | '\x7d' => l.flowEnd? .flowMappingEnd
    | ',' => l.flowEntry?
    | '-' => if endsWord rest then l.entry? else plain
    | '?' => if l.inFlow || endsWord rest then l.markedKey? else plain
    | ':' => if l.inFlow || endsWord rest then l.value? else plain
    | '*' => l.anchor? .alias
    | '&' => l.anchor? .anchor
    | '!' => l.tag?
    | '|' => if l.inFlow then none else l.blockScalar? true
    | '>' => if l.inFlow then none else l.blockScalar? false
    | '\'' => l.quoted? true
    | '"' => l.quoted? false
    | _ => plain

/-- Reads tokens to the end of the text; each takes at least one character. -/
def tokensFrom : Nat → Lexer → Option (List Token)
  | 0, _ => none
  | fuel + 1, l => do
    let l ← l.toToken.dropStaleKeys?
    let l := l.unroll (some l.cursor.mark.column)
    match l.cursor.rest with
    | [] => do
      let l ← (l.unroll none).dropKey?
      return (l.push .streamEnd).tokens.toList
    | c :: rest => do tokensFrom fuel (← l.token? c rest)

end Lexer

def Token.ofText? (text : String) : Option (List Token) :=
  let cs := text.toList
  if !cs.all isAllowed then none else Lexer.tokensFrom (cs.length + 1) { cursor := ⟨cs, {}⟩ }

end CryptoSurvey.Yaml
