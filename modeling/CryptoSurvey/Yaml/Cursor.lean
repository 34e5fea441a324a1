namespace CryptoSurvey.Yaml

def isBreak (c : Char) : Bool :=
  c == '\n' || c == '\r' || c == '\u0085' || c == '\u2028' || c == '\u2029'

def isGap (c : Char) : Bool :=
  c == ' ' || c == '\t'

def endsWord : List Char → Bool
  | [] => true
  | c :: _ => isGap c || isBreak c

def endsLine : List Char → Bool
  | [] => true
  | c :: _ => isBreak c

def isWordChar (c : Char) : Bool :=
  c.isAlphanum || c == '_' || c == '-'

def isAllowed (c : Char) : Bool :=
  let n := c.toNat
  n == 0x9 || n == 0xa || n == 0xd || (0x20 ≤ n && n ≤ 0x7e) || n == 0x85 ||
    (0xa0 ≤ n && n ≤ 0xfffd) || 0x10000 ≤ n

/-- A place in a text: the number of bytes before it, its line and its column in characters. -/
structure Mark where
  index : Nat := 0
  line : Nat := 0
  column : Nat := 0

namespace Mark

def next (m : Mark) (c : Char) : Mark :=
  { m with index := m.index + c.utf8Size, column := m.column + 1 }

def advance (m : Mark) (n : Nat) : Mark :=
  { m with index := m.index + n, column := m.column + n }

def newLine (m : Mark) (width : Nat) : Mark :=
  { index := m.index + width, line := m.line + 1, column := 0 }

end Mark

structure Cursor where
  rest : List Char
  mark : Mark := {}

namespace Cursor

def skip (c : Cursor) (n : Nat) : Cursor :=
  ⟨c.rest.drop n, (c.rest.take n).foldl Mark.next c.mark⟩

def skipBreak (c : Cursor) : Cursor :=
  match c.rest with
  | '\r' :: '\n' :: rest => ⟨rest, c.mark.newLine 2⟩
  | b :: rest => if isBreak b then ⟨rest, c.mark.newLine 1⟩ else c
  | [] => c

def skipWhile (c : Cursor) (test : Char → Bool) : Cursor :=
  c.skip (c.rest.takeWhile test).length

def takeWhile (c : Cursor) (test : Char → Bool) : List Char × Cursor :=
  (c.rest.takeWhile test, c.skipWhile test)

def skipLineEnd? (c : Cursor) : Option Cursor :=
  let c := c.skipWhile isGap
  let c := if c.rest.head? == some '#' then c.skipWhile (!isBreak ·) else c
  if endsLine c.rest then some c.skipBreak else none

/-- The cursor stands at a line that starts with the given mark of three characters. -/
def atMarker (c : Cursor) (mark : Char) : Bool :=
  c.mark.column == 0 &&
    match c.rest with
    | a :: b :: d :: rest => a == mark && b == mark && d == mark && endsWord rest
    | _ => false

def atDocumentMarker (c : Cursor) : Bool :=
  c.atMarker '-' || c.atMarker '.'

end Cursor

def breakText (b : Char) : Char :=
  if b == '\u2028' || b == '\u2029' then b else '\n'

end CryptoSurvey.Yaml
