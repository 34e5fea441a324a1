import CryptoSurvey.Pattern.Footprint
import CryptoSurvey.Pattern.Name
import CryptoSurvey.Text.Blank

namespace CryptoSurvey.Pattern

open Text (CodeSet)

structure Flags where
  ignoreCase : Bool := false
  multiLine : Bool := false
  dotAll : Bool := false
  crlf : Bool := false
  unicode : Bool := true
  /-- Blanks and comments between the parts of the pattern are passed over. -/
  verbose : Bool := false

def skipBlanks (inComment : Bool) : List Char → List Char
  | [] => []
  | c :: rest =>
    if inComment then skipBlanks (c != '\n') rest
    else if Text.isBlank c then skipBlanks false rest
    else if c == '#' then skipBlanks true rest
    else c :: rest

theorem length_skipBlanks_le (inComment : Bool) (cs : List Char) :
    (skipBlanks inComment cs).length ≤ cs.length := by
  induction cs generalizing inComment with
  | nil => simp [skipBlanks]
  | cons c rest ih =>
    simp only [skipBlanks]
    split
    · exact Nat.le_succ_of_le (ih _)
    · split
      · exact Nat.le_succ_of_le (ih _)
      · split
        · exact Nat.le_succ_of_le (ih _)
        · exact Nat.le_refl _

namespace Flags

def gap (f : Flags) (cs : List Char) : List Char :=
  if f.verbose then skipBlanks false cs else cs

theorem length_gap_le (f : Flags) (cs : List Char) : (f.gap cs).length ≤ cs.length := by
  unfold gap
  split
  · exact length_skipBlanks_le _ _
  · exact Nat.le_refl _

def upTo (f : Flags) (stop : Char) : List Char → Option (List Char × List Char)
  | [] => none
  | c :: rest =>
    if c == stop then some ([], rest)
    else (f.upTo stop (f.gap rest)).map fun r => (c :: r.1, r.2)
termination_by cs => cs.length
decreasing_by simp only [List.length_cons]; exact Nat.lt_succ_of_le (f.length_gap_le rest)

def run (f : Flags) (test : Char → Bool) : List Char → List Char × List Char
  | [] => ([], [])
  | c :: rest =>
    if test c then
      let r := f.run test (f.gap rest)
      (c :: r.1, r.2)
    else ([], c :: rest)
termination_by cs => cs.length
decreasing_by simp only [List.length_cons]; exact Nat.lt_succ_of_le (f.length_gap_le rest)

def fold (f : Flags) (s : CodeSet) : CodeSet :=
  if !f.ignoreCase then s else if f.unicode then s.anyCase else s.anyAsciiCase

def negate? (f : Flags) (negated : Bool) (s : CodeSet) : Option CodeSet :=
  if !negated then some s else if f.unicode then some s.compl else none

def alphabet (f : Flags) : Alphabet :=
  if f.unicode then .unicode else .ascii

end Flags

def decimal? (f : Flags) (cs : List Char) : Option (Nat × List Char) :=
  let r := f.run Char.isDigit (cs.dropWhile Text.isBlank)
  let value := r.1.foldl (fun n c => 10 * n + (c.toNat - '0'.toNat)) 0
  if r.1.isEmpty || value ≥ 0x100000000 then none
  else some (value, (f.run Text.isBlank r.2).2)

def hexValue? (c : Char) : Option Nat :=
  if c.isDigit then some (c.toNat - '0'.toNat)
  else if 'a' ≤ c && c ≤ 'f' then some (c.toNat - 'a'.toNat + 10)
  else if 'A' ≤ c && c ≤ 'F' then some (c.toNat - 'A'.toNat + 10)
  else none

def hexChar? (digits : List Char) : Option Char := do
  if digits.isEmpty then none
  let value ← digits.foldlM (fun n c => do return 16 * n + (← hexValue? c)) 0
  if value.isValidChar then some (Char.ofNat value) else none

def fixed? (f : Flags) : Nat → List Char → Option (List Char × List Char)
  | 0, cs => some ([], cs)
  | _ + 1, [] => none
  | n + 1, c :: rest => (fixed? f n (f.gap rest)).map fun r => (c :: r.1, r.2)

inductive Atom where
  | char (c : Char)
  | set (s : CodeSet)
  | look (l : Look)

/-- A character given by its code point, after the letter that says how many digits it has. A byte
above ASCII is no character of its own. -/
def hexEscape? (f : Flags) (width : Nat) (cs : List Char) : Option (Atom × List Char) :=
  match f.gap cs with
  | '\x7b' :: rest => do
    let (digits, rest) ← f.upTo '\x7d' (f.gap rest)
    return (.char (← hexChar? digits), f.gap rest)
  | cs => do
    let (digits, rest) ← fixed? f width cs
    let c ← hexChar? digits
    if width == 2 && !f.unicode && c.toNat ≥ 0x80 then none
    return (.char c, rest)

def splitName? (separator : List Char) : List Char → Option (List Char × List Char)
  | [] => none
  | c :: rest =>
    if separator.isPrefixOf (c :: rest) then some ([], (c :: rest).drop separator.length)
    else (splitName? separator rest).map fun r => (c :: r.1, r.2)

def namedClass? (negated : Bool) (name : List Char) : Option (Bool × CodeSet) :=
  match splitName? ['!', '='] name with
  | some (p, v) => (classWithValue? p v).map (!negated, ·)
  | none =>
    match (splitName? [':'] name).or (splitName? ['='] name) with
    | some (p, v) => (classWithValue? p v).map (negated, ·)
    | none => (classNamed? name).map (negated, ·)

def className? (f : Flags) (negated : Bool) : List Char → Option (Bool × CodeSet × List Char)
  | [] => none
  | '\x7b' :: rest => do
    let (name, rest) ← f.upTo '\x7d' (f.gap rest)
    let (negated, s) ← namedClass? negated name
    return (negated, s, rest)
  | c :: rest =>
    if c == '\\' then none
    else (classNamed? [c]).map fun s => (negated, s, f.gap rest)

def classEscape? (f : Flags) (negated : Bool) (cs : List Char) : Option (Atom × List Char) := do
  if !f.unicode then none
  let (negated, s, rest) ← className? f negated (f.gap cs)
  return (.set (← f.negate? negated (f.fold s)), rest)

def isBoundaryLetter (c : Char) : Bool :=
  c.isAlpha || c == '-'

/-- A word boundary, whose kind may follow in braces; a number in braces is a repetition instead. -/
def boundary? (f : Flags) (cs : List Char) : Option (Atom × List Char) :=
  match cs with
  | '\x7b' :: rest =>
    match f.gap rest with
    | [] => none
    | c :: _ =>
      if isBoundaryLetter c then
        match f.run isBoundaryLetter (f.gap rest) with
        | (name, '\x7d' :: rest) =>
          match String.ofList name with
          | "start" => some (.look (.wordStart f.alphabet), rest)
          | "end" => some (.look (.wordEnd f.alphabet), rest)
          | "start-half" => some (.look (.noWordBefore f.alphabet), rest)
          | "end-half" => some (.look (.noWordAfter f.alphabet), rest)
          | _ => none
        | _ => none
      else some (.look (.wordBoundary f.alphabet), cs)
  | _ => some (.look (.wordBoundary f.alphabet), cs)

def escape? (f : Flags) : List Char → Option (Atom × List Char)
  | [] => none
  | c :: rest =>
    let set (negated : Bool) (s t : CodeSet) : Option (Atom × List Char) :=
      (f.negate? negated (if f.unicode then s else t)).map fun s => (.set s, rest)
    match c with
    | 'x' => hexEscape? f 2 rest
    | 'u' => hexEscape? f 4 rest
    | 'U' => hexEscape? f 8 rest
    | 'p' => classEscape? f false rest
    | 'P' => classEscape? f true rest
    | 'd' => set false digitCodes asciiDigitCodes
    | 'D' => set true digitCodes asciiDigitCodes
    | 's' => set false blankCodes asciiBlankCodes
    | 'S' => set true blankCodes asciiBlankCodes
    | 'w' => set false wordCodes asciiWordCodes
    | 'W' => set true wordCodes asciiWordCodes
    | 'a' => some (.char '\x07', rest)
    | 'f' => some (.char '\x0c', rest)
    | 't' => some (.char '\t', rest)
    | 'n' => some (.char '\n', rest)
    | 'r' => some (.char '\r', rest)
    | 'v' => some (.char '\x0b', rest)
    | 'A' => some (.look .textStart, rest)
    | 'z' => some (.look .textEnd, rest)
    | 'b' => boundary? f rest
    | 'B' => some (.look (.insideOrOutside f.alphabet), rest)
    | '<' => some (.look (.wordStart f.alphabet), rest)
    | '>' => some (.look (.wordEnd f.alphabet), rest)
    | c =>
      if c.toNat < 0x80 && !c.isAlphanum then some (.char c, rest) else none

structure Bracket where
  set : CodeSet
  depth : Nat

/-- The sets joined so far in a bracket: an operation that waits for its second set, and the items
read since, with their number and depth. -/
structure OpenBracket where
  pending? : Option ((CodeSet → CodeSet → CodeSet) × Bracket) := none
  items : CodeSet := ∅
  count : Nat := 0
  depth : Nat := 0

namespace OpenBracket

def push (o : OpenBracket) (b : Bracket) : OpenBracket :=
  { o with items := .union o.items b.set, count := o.count + 1, depth := max o.depth b.depth }

def pushChar (o : OpenBracket) (c : Char) : OpenBracket :=
  o.push ⟨.single c.toNat, 0⟩

def joined (o : OpenBracket) : Bracket :=
  ⟨o.items, if o.count < 2 then o.depth else o.depth + 1⟩

def total (f : Flags) (o : OpenBracket) : Bracket :=
  match o.pending? with
  | none => o.joined
  | some (op, left) =>
    ⟨op (f.fold left.set) (f.fold o.joined.set), max left.depth o.joined.depth + 1⟩

def operate (f : Flags) (op : CodeSet → CodeSet → CodeSet) (o : OpenBracket) : OpenBracket :=
  { pending? := some (op, o.total f) }

end OpenBracket

/-- A character of a bracket stands for itself. Above ASCII there are none if the flags leave only
bytes. -/
def bracketChar? (f : Flags) (c : Char) : Option Char :=
  if !f.unicode && c.toNat ≥ 0x80 then none else some c

def bracketAtom? (f : Flags) : List Char → Option (Atom × List Char)
  | [] => none
  | '\\' :: rest => escape? f rest
  | c :: rest => some (.char c, rest)

/-- The character that follows blanks and comments; of a comment only the mark is passed over. -/
def peekPast (inComment : Bool) : List Char → Option Char
  | [] => none
  | c :: rest =>
    if Text.isBlank c then peekPast inComment rest
    else if !inComment && c == '#' then peekPast true rest
    else some c

def peek (f : Flags) (cs : List Char) : Option Char :=
  if f.verbose then (peekPast false cs).or cs.head? else cs.head?

def bracketItem? (f : Flags) (cs : List Char) : Option (CodeSet × List Char) := do
  let (first, rest) ← bracketAtom? f cs
  let plain (rest : List Char) : Option (CodeSet × List Char) :=
    match first with
    | .char c => (bracketChar? f c).map fun c => (.single c.toNat, rest)
    | .set s => some (s, rest)
    | .look _ => none
  match f.gap rest with
  | [] => none
  | '-' :: after =>
    if peek f after == some ']' || peek f after == some '-' then plain ('-' :: after)
    else
      let (last, rest) ← bracketAtom? f (f.gap after)
      match first, last with
      | .char a, .char b => do
        let a ← bracketChar? f a
        let b ← bracketChar? f b
        if a ≤ b then some (⟨[(a.toNat, b.toNat)]⟩, rest) else none
      | _, _ => none
  | rest => plain rest

def bracketClass? (f : Flags) (cs : List Char) : Option (Option CodeSet × List Char) :=
  match cs with
  | ':' :: rest =>
    let (negated, rest) := match rest with
      | '^' :: rest => (true, rest)
      | rest => (false, rest)
    let name := rest.takeWhile (· != ':')
    match rest.dropWhile (· != ':') with
    | ':' :: ']' :: rest =>
      (Pattern.asciiClass? (String.ofList name)).map fun s =>
        (f.negate? negated (f.fold s), rest)
    | _ => none
  | _ => none

def leadingDashes (f : Flags) (o : OpenBracket) : List Char → OpenBracket × List Char
  | '-' :: rest => leadingDashes f (o.pushChar '-') (f.gap rest)
  | cs => (o, cs)
termination_by cs => cs.length
decreasing_by simp only [List.length_cons]; exact Nat.lt_succ_of_le (f.length_gap_le rest)

/-- The start of a bracket after its opening: whether it is negated, and the dashes and closing
bracket that stand for themselves there. -/
def openBracket (f : Flags) (cs : List Char) : Bool × OpenBracket × List Char :=
  let (negated, cs) := match f.gap cs with
    | '^' :: rest => (true, f.gap rest)
    | cs => (false, cs)
  match leadingDashes f {} cs with
  | (o, ']' :: rest) =>
    if o.count == 0 then (negated, o.pushChar ']', f.gap rest) else (negated, o, ']' :: rest)
  | (o, cs) => (negated, o, cs)

/-- Reads a bracket up to its closing; every step takes at least one character. -/
def bracketFrom (f : Flags) : Nat → Bool → OpenBracket → List Char → Option (Bracket × List Char)
  | 0, _, _, _ => none
  | fuel + 1, negated, o, cs =>
    match f.gap cs with
    | [] => none
    | '[' :: rest =>
      match bracketClass? f rest with
      | some (s?, rest) => do bracketFrom f fuel negated (o.push ⟨← s?, 0⟩) rest
      | none => do
        let (inner, start, rest) := openBracket f rest
        let (b, rest) ← bracketFrom f fuel inner start rest
        bracketFrom f fuel negated (o.push b) rest
    | ']' :: rest => do
      let b := o.total f
      return (⟨← f.negate? negated (f.fold b.set), b.depth + 1⟩, rest)
    | '&' :: '&' :: rest => bracketFrom f fuel negated (o.operate f .inter) rest
    | '-' :: '-' :: rest => bracketFrom f fuel negated (o.operate f .diff) rest
    | '~' :: '~' :: rest => bracketFrom f fuel negated (o.operate f .symmDiff) rest
    | cs => do
      let (s, rest) ← bracketItem? f cs
      bracketFrom f fuel negated (o.push ⟨s, 0⟩) rest

def bracket? (f : Flags) (cs : List Char) : Option (Bracket × List Char) :=
  let (negated, o, rest) := openBracket f cs
  bracketFrom f (rest.length + 1) negated o rest

/-- A part of a pattern with the number of its levels. A directive changes flags and cannot be
repeated. -/
structure Part where
  pattern : Pattern
  depth : Nat
  directive : Bool := false

/-- Parts in reverse order, one after the other. -/
def joinParts : List Part → Part
  | [] => ⟨.empty, 0, false⟩
  | [p] => p
  | ps => ⟨concat (ps.reverse.map (·.pattern)), (ps.map (·.depth)).foldl max 0 + 1, false⟩

/-- Branches in reverse order, one instead of the other. -/
def joinBranches : List Part → Part
  | [] => ⟨.empty, 0, false⟩
  | [p] => p
  | ps => ⟨alternation (ps.reverse.map (·.pattern)), (ps.map (·.depth)).foldl max 0 + 1, false⟩

structure Frame where
  flags : Flags
  parts : List Part
  branches : List Part
  /-- The number of the group, if it has one. -/
  index? : Option Nat

/-- How far a pattern has been read. Parts, branches and groups come last first. -/
structure Progress where
  flags : Flags := {}
  parts : List Part := []
  branches : List Part := []
  frames : List Frame := []
  names : List String := []
  /-- How many numbered groups there are. -/
  groups : Nat := 0

namespace Progress

def push (s : Progress) (p : Part) : Progress :=
  { s with parts := p :: s.parts }

def pushPattern (s : Progress) (p : Pattern) : Progress :=
  s.push ⟨p, 0, false⟩

def branch (s : Progress) : Progress :=
  { s with parts := [], branches := joinParts s.parts :: s.branches }

def whole (s : Progress) : Part :=
  joinBranches (joinParts s.parts :: s.branches)

def openGroup (s : Progress) (numbered : Bool) (flags : Flags) : Progress :=
  let groups := if numbered then s.groups + 1 else s.groups
  { s with
    flags
    parts := []
    branches := []
    frames := ⟨s.flags, s.parts, s.branches, if numbered then some groups else none⟩ :: s.frames
    groups }

def closeGroup? (s : Progress) : Option Progress :=
  match s.frames with
  | [] => none
  | g :: frames =>
    let p := s.whole
    let pattern := match g.index? with
      | some i => .capture i p.pattern
      | none => p.pattern
    some { s with
      flags := g.flags
      parts := ⟨pattern, p.depth + 1, false⟩ :: g.parts
      branches := g.branches
      frames }

def times? (s : Progress) (least : Nat) (most : Option Nat) : Option Progress :=
  match s.parts with
  | [] => none
  | p :: parts =>
    if p.directive || most.any (· < least) then none
    else some { s with parts := ⟨p.pattern.repeated least most, p.depth + 1, false⟩ :: parts }

def pushChar (s : Progress) (c : Char) : Progress :=
  s.pushPattern (ofSet (s.flags.fold (.single c.toNat)))

end Progress

/-- A mark of reluctance changes which stretch is matched, not whether there is one. -/
def skipReluctance : List Char → List Char
  | '?' :: rest => rest
  | cs => cs

def counts? (f : Flags) (cs : List Char) : Option ((Nat × Option Nat) × List Char) := do
  let (least, rest) ← decimal? f (f.gap cs)
  match rest with
  | '\x7d' :: rest => some ((least, some least), rest)
  | ',' :: rest =>
    match f.gap rest with
    | '\x7d' :: rest => some ((least, none), rest)
    | rest => do
      match ← decimal? f rest with
      | (most, '\x7d' :: rest) => some ((least, some most), rest)
      | _ => none
  | _ => none

def Flags.set? (f : Flags) (c : Char) (value : Bool) : Option Flags :=
  match c with
  | 'i' => some { f with ignoreCase := value }
  | 'm' => some { f with multiLine := value }
  | 's' => some { f with dotAll := value }
  | 'R' => some { f with crlf := value }
  | 'U' => some f
  | 'u' => some { f with unicode := value }
  | 'x' => some { f with verbose := value }
  | _ => none

def flagLetters : List Char → Option (List Char × Char × List Char)
  | [] => none
  | c :: rest =>
    if c == ':' || c == ')' then some ([], c, rest)
    else (flagLetters rest).map fun r => (c :: r.1, r.2)

/-- Applies a list of flags: no letter twice, at most one dash, and a letter after the dash. -/
def Flags.withLetters? (f : Flags) (value : Bool) : List Char → Option Flags
  | [] => some f
  | '-' :: rest => if !value || rest.isEmpty then none else f.withLetters? false rest
  | c :: rest => if rest.contains c then none else do (← f.set? c value).withLetters? value rest

def isNameStart (c : Char) : Bool :=
  c == '_' || (Text.Property.codesOf "alphabetic").contains c.toNat

def isNameChar (c : Char) : Bool :=
  isNameStart c || c == '.' || c == '[' || c == ']' ||
    (Text.Category.codesOfAll [.decimalNumber, .letterNumber, .otherNumber]).contains c.toNat

def namedGroup? (s : Progress) (cs : List Char) : Option (Progress × List Char) :=
  match cs.takeWhile (· != '>'), cs.dropWhile (· != '>') with
  | first :: name, '>' :: rest =>
    let whole := String.ofList (first :: name)
    if isNameStart first && name.all isNameChar && !s.names.contains whole then
      some ({ s.openGroup true s.flags with names := whole :: s.names }, rest)
    else none
  | _, _ => none

def group? (s : Progress) (cs : List Char) : Option (Progress × List Char) :=
  match s.flags.gap cs with
  | '?' :: '=' :: _ => none
  | '?' :: '!' :: _ => none
  | '?' :: '<' :: '=' :: _ => none
  | '?' :: '<' :: '!' :: _ => none
  | '?' :: 'P' :: '<' :: rest => namedGroup? s rest
  | '?' :: '<' :: rest => namedGroup? s rest
  | '?' :: rest => do
    let (letters, stop, rest) ← flagLetters rest
    let flags ← s.flags.withLetters? true letters
    if stop == ':' then some (s.openGroup false flags, rest)
    else if letters.isEmpty then none
    else some ({ s with flags, parts := ⟨.empty, 0, true⟩ :: s.parts }, rest)
  | rest => some (s.openGroup true s.flags, rest)

def dot? (f : Flags) : Option CodeSet :=
  if !f.unicode then none
  else if f.dotAll then some .all
  else if f.crlf then some (CodeSet.compl ⟨[('\n'.toNat, '\n'.toNat), ('\r'.toNat, '\r'.toNat)]⟩)
  else some (CodeSet.single '\n'.toNat).compl

def caret (f : Flags) : Look :=
  if !f.multiLine then .textStart else if f.crlf then .crlfStart else .lineStart

def dollar (f : Flags) : Look :=
  if !f.multiLine then .textEnd else if f.crlf then .crlfEnd else .lineEnd

def part? (s : Progress) (c : Char) (rest : List Char) : Option (Progress × List Char) :=
  match c with
  | '(' => group? s rest
  | ')' => s.closeGroup?.map (·, rest)
  | '|' => some (s.branch, rest)
  | '[' => do
    let (b, rest) ← bracket? s.flags rest
    return (s.push ⟨ofSet b.set, b.depth, false⟩, rest)
  | '?' => (s.times? 0 (some 1)).map (·, skipReluctance rest)
  | '*' => (s.times? 0 none).map (·, skipReluctance rest)
  | '+' => (s.times? 1 none).map (·, skipReluctance rest)
  | '\x7b' => do
    let ((least, most), rest) ← counts? s.flags rest
    return (← s.times? least most, skipReluctance (s.flags.gap rest))
  | '\\' => do
    let (a, rest) ← escape? s.flags rest
    match a with
    | .char c => some (s.pushChar c, rest)
    | .set t => some (s.pushPattern (ofSet t), rest)
    | .look l => some (s.pushPattern (.look l), rest)
  | '.' => (dot? s.flags).map fun t => (s.pushPattern (ofSet t), rest)
  | '^' => some (s.pushPattern (.look (caret s.flags)), rest)
  | '$' => some (s.pushPattern (.look (dollar s.flags)), rest)
  | c => some (s.pushChar c, rest)

/-- Reads parts to the end of the text; each takes at least one character. -/
def partsFrom : Nat → Progress → List Char → Option Part
  | 0, _, _ => none
  | fuel + 1, s, cs =>
    match s.flags.gap cs with
    | [] => if s.frames.isEmpty then some s.whole else none
    | c :: rest => do
      let (s, rest) ← part? s c rest
      partsFrom fuel s rest

def maxDepth : Nat := 250

inductive Error where
  | malformed
  | tooDeep
  | tooLarge
  deriving DecidableEq, Repr

def Error.message : Error → String
  | .malformed => "the pattern is malformed"
  | .tooDeep => "the pattern has too many levels"
  | .tooLarge => "the pattern is too large"

def parse (text : String) : Except Error Pattern :=
  let cs := text.toList
  match partsFrom (cs.length + 1) {} cs with
  | none => .error .malformed
  | some p =>
    if p.depth > maxDepth then .error .tooDeep
    else if !p.pattern.fits then .error .tooLarge
    else .ok p.pattern

end CryptoSurvey.Pattern
