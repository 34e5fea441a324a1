import CryptoSurvey.Yaml.Cursor

namespace CryptoSurvey.Yaml

inductive ScalarStyle where
  | plain
  | quoted
  | literal
  | folded
  deriving DecidableEq, Repr

/-- A scalar that is being read, in reverse: its text, and the gaps and ends of lines that count only
if more text follows. -/
structure Fold where
  text : List Char := []
  gaps : List Char := []
  /-- A line has ended since the last text. -/
  broken : Bool := false
  firstBreak : List Char := []
  laterBreaks : List Char := []

namespace Fold

/-- Takes a gap; at the start of a line it does not count. -/
def gap (f : Fold) (c : Char) : Fold :=
  if f.broken then f else { f with gaps := c :: f.gaps }

def lineEnd (f : Fold) (b : Char) : Fold :=
  if f.broken then { f with laterBreaks := breakText b :: f.laterBreaks }
  else { f with gaps := [], broken := true, firstBreak := [breakText b] }

def join (f : Fold) : Fold :=
  if f.broken then
    let text :=
      if f.firstBreak == ['\n'] then
        if f.laterBreaks.isEmpty then ' ' :: f.text else f.laterBreaks ++ f.text
      else f.laterBreaks ++ f.firstBreak ++ f.text
    { text }
  else { text := f.gaps ++ f.text }

def push (f : Fold) (c : Char) : Fold :=
  { f with text := c :: f.text }

end Fold

inductive PlainStop where
  | no
  | stop
  | fault

def startsWithAny (marks : List Char) : List Char → Bool
  | [] => false
  | c :: _ => marks.contains c

def plainStop (inFlow : Bool) : List Char → PlainStop
  | [] => .stop
  | ':' :: rest =>
    if inFlow && startsWithAny [',', '?', '[', ']', '\x7b', '\x7d'] rest then .fault
    else if endsWord rest then .stop
    else .no
  | c :: _ =>
    if inFlow && (c == ',' || c == '[' || c == ']' || c == '\x7b' || c == '\x7d') then .stop
    else .no

/-- Reads a plain scalar. `fresh` says that the last character was a gap or the end of a line, or that
there was none; `indent` is the least column of its further lines. -/
def plainFrom (inFlow : Bool) (indent : Nat) (first fresh : Bool) (f : Fold) (m : Mark) :
    List Char → Option (Fold × Cursor)
  | [] => some (f, ⟨[], m⟩)
  | '\r' :: '\n' :: rest => plainFrom inFlow indent false true (f.lineEnd '\n') (m.newLine 2) rest
  | c :: rest =>
    if isBreak c then plainFrom inFlow indent false true (f.lineEnd c) (m.newLine 1) rest
    else if isGap c then
      if f.broken && m.column < indent && c == '\t' then none
      else plainFrom inFlow indent false true (f.gap c) (m.next c) rest
    else
      let here : Cursor := ⟨c :: rest, m⟩
      let stops := fresh &&
        ((!first && !inFlow && m.column < indent) || here.atDocumentMarker || c == '#')
      if stops then some (f, here)
      else
        match plainStop inFlow (c :: rest) with
        | .fault => none
        | .stop => some (f, here)
        | .no => plainFrom inFlow indent false false (f.join.push c) (m.next c) rest

/-- A plain scalar, whether its last line was left, and the place after it. -/
def plain? (inFlow : Bool) (indent : Nat) (c : Cursor) : Option (String × Bool × Cursor) :=
  (plainFrom inFlow indent true true {} c.mark c.rest).map fun r =>
    (String.ofList r.1.text.reverse, r.1.broken, r.2)

def singleFrom (f : Fold) (m : Mark) : List Char → Option (String × Cursor)
  | [] => none
  | '\'' :: '\'' :: rest => singleFrom (f.join.push '\'') (m.advance 2) rest
  | '\'' :: rest => some (String.ofList f.join.text.reverse, ⟨rest, m.advance 1⟩)
  | '\r' :: '\n' :: rest => singleFrom (f.lineEnd '\n') (m.newLine 2) rest
  | c :: rest =>
    if isBreak c then singleFrom (f.lineEnd c) (m.newLine 1) rest
    else if isGap c then singleFrom (f.gap c) (m.next c) rest
    else if (Cursor.mk (c :: rest) m).atDocumentMarker then none
    else singleFrom (f.join.push c) (m.next c) rest

def escapeChar? : Char → Option Char
  | '0' => some '\x00'
  | 'a' => some '\x07'
  | 'b' => some '\x08'
  | 't' => some '\t'
  | '\t' => some '\t'
  | 'n' => some '\n'
  | 'v' => some '\x0b'
  | 'f' => some '\x0c'
  | 'r' => some '\r'
  | 'e' => some '\x1b'
  | ' ' => some ' '
  | '"' => some '"'
  | '/' => some '/'
  | '\\' => some '\\'
  | 'N' => some '\u0085'
  | '_' => some '\u00a0'
  | 'L' => some '\u2028'
  | 'P' => some '\u2029'
  | _ => none

def escapeWidth? : Char → Option Nat
  | 'x' => some 2
  | 'u' => some 4
  | 'U' => some 8
  | _ => none

def hexDigit? (c : Char) : Option Nat :=
  if c.isDigit then some (c.toNat - '0'.toNat)
  else if 'a' ≤ c && c ≤ 'f' then some (c.toNat - 'a'.toNat + 10)
  else if 'A' ≤ c && c ≤ 'F' then some (c.toNat - 'A'.toNat + 10)
  else none

/-- Reads a scalar in double quotes. `digits` of the hexadecimal digits of an escape are still to
come, and `code` is the value of those read. -/
def doubleFrom (f : Fold) (m : Mark) (digits code : Nat) : List Char → Option (String × Cursor)
  | [] => none
  | c :: rest =>
    match digits with
    | digits + 1 =>
      match hexDigit? c with
      | none => none
      | some d =>
        let code := 16 * code + d
        if digits == 0 then
          if code.isValidChar then doubleFrom (f.push (Char.ofNat code)) (m.next c) 0 0 rest else none
        else doubleFrom f (m.next c) digits code rest
    | 0 =>
      match c, rest with
      | '"', rest => some (String.ofList f.join.text.reverse, ⟨rest, m.advance 1⟩)
      | '\r', '\n' :: rest => doubleFrom (f.lineEnd '\n') (m.newLine 2) 0 0 rest
      | '\\', '\r' :: '\n' :: rest =>
        doubleFrom { f.join with broken := true } (m.newLine 3) 0 0 rest
      | '\\', e :: rest =>
        if isBreak e then doubleFrom { f.join with broken := true } (m.newLine 2) 0 0 rest
        else
          match escapeChar? e, escapeWidth? e with
          | some x, _ => doubleFrom (f.join.push x) (m.advance 2) 0 0 rest
          | none, some width => doubleFrom f.join (m.advance 2) width 0 rest
          | none, none => none
      | c, rest =>
        if isBreak c then doubleFrom (f.lineEnd c) (m.newLine 1) 0 0 rest
        else if isGap c then doubleFrom (f.gap c) (m.next c) 0 0 rest
        else if (Cursor.mk (c :: rest) m).atDocumentMarker then none
        else doubleFrom (f.join.push c) (m.next c) 0 0 rest

inductive Chomping where
  | strip
  | clip
  | keep
  deriving DecidableEq

/-- The header of a block scalar: what is chomped and how far it is indented, if that is said. -/
def blockHeader? : List Char → Option ((Chomping × Nat) × List Char)
  | '+' :: rest => some (indentOf .keep rest)
  | '-' :: rest => some (indentOf .strip rest)
  | c :: rest =>
    if c.isDigit then
      match rest with
      | '+' :: rest => some ((.keep, c.toNat - '0'.toNat), rest)
      | '-' :: rest => some ((.strip, c.toNat - '0'.toNat), rest)
      | rest => some ((.clip, c.toNat - '0'.toNat), rest)
    else none
  | [] => none
where
  indentOf (chomping : Chomping) : List Char → (Chomping × Nat) × List Char
    | c :: rest =>
      if c.isDigit then ((chomping, c.toNat - '0'.toNat), rest) else ((chomping, 0), c :: rest)
    | [] => ((chomping, 0), [])

/-- Passes over the indentation and the empty lines before the next line of a block scalar. Gives the
ends of lines in reverse and the greatest column reached; an `indent` of zero is not known yet. -/
def blockBreaks (indent widest : Nat) (breaks : List Char) (m : Mark) :
    List Char → Option (List Char × Nat × Cursor)
  | [] => some (breaks, max widest m.column, ⟨[], m⟩)
  | '\r' :: '\n' :: rest =>
    blockBreaks indent (max widest m.column) ('\n' :: breaks) (m.newLine 2) rest
  | c :: rest =>
    let indenting := indent == 0 || m.column < indent
    if indenting && c == ' ' then blockBreaks indent widest breaks (m.next c) rest
    else if indenting && c == '\t' then none
    else if isBreak c then
      blockBreaks indent (max widest m.column) (breakText c :: breaks) (m.newLine 1) rest
    else some (breaks, max widest m.column, ⟨c :: rest, m⟩)

/-- The text of a block scalar in reverse, the end of its last line and the empty lines after that. -/
structure Block where
  text : List Char := []
  lastBreak : List Char := []
  laterBreaks : List Char := []
  /-- The last line starts with a gap, so that its ends are not folded. -/
  gapped : Bool := false

/-- Reads lines as long as they are indented enough; each takes at least one character. -/
def blockLines (literal : Bool) (indent : Nat) : Nat → Block → Cursor → Option (Block × Cursor)
  | 0, b, c => some (b, c)
  | fuel + 1, b, c =>
    if c.rest.isEmpty || c.mark.column != indent then some (b, c)
    else do
      let gapped := c.rest.head?.any isGap
      let folds := !literal && b.lastBreak == ['\n'] && !b.gapped && !gapped
      let text :=
        if folds then
          if b.laterBreaks.isEmpty then ' ' :: b.text else b.laterBreaks ++ b.text
        else b.laterBreaks ++ b.lastBreak ++ b.text
      let (line, c) := c.takeWhile (!isBreak ·)
      let lastBreak := match c.rest with
        | '\r' :: _ => ['\n']
        | x :: _ => [breakText x]
        | [] => []
      let c := c.skipBreak
      let (laterBreaks, _, c) ← blockBreaks indent 0 [] c.mark c.rest
      blockLines literal indent fuel
        { text := line.reverse ++ text, lastBreak, laterBreaks, gapped } c

/-- A block scalar after its mark. `parent` is the column of the collection it stands in. -/
def block? (literal : Bool) (parent : Option Nat) (c : Cursor) : Option (String × Cursor) := do
  let ((chomping, increment), rest) := (blockHeader? c.rest).getD ((.clip, 0), c.rest)
  let taken := c.rest.length - rest.length
  -- A digit of zero says nothing, and is no indentation either.
  if (c.rest.take taken).contains '0' then none
  let c ← (c.skip taken).skipLineEnd?
  let indent := if increment == 0 then 0 else parent.getD 0 + increment
  let (breaks, widest, c) ← blockBreaks indent 0 [] c.mark c.rest
  let indent := if indent == 0 then max (max widest ((parent.map (· + 1)).getD 0)) 1 else indent
  let (b, c) ← blockLines literal indent (c.rest.length + 1) { laterBreaks := breaks } c
  let text := if chomping == .strip then b.text else b.lastBreak ++ b.text
  let text := if chomping == .keep then b.laterBreaks ++ text else text
  return (String.ofList text.reverse, c)

end CryptoSurvey.Yaml
