import CryptoSurvey.Text.CaseFold
import CryptoSurvey.Text.Property

namespace CryptoSurvey

open Text (CodeSet)

inductive Alphabet where
  | ascii
  | unicode
  deriving DecidableEq, Repr

def wordCodes : CodeSet :=
  ((Text.Property.codesOf "alphabetic").union
    (Text.Category.codesOfAll
      [.nonspacingMark, .spacingMark, .enclosingMark, .decimalNumber, .connectorPunctuation])).union
    (Text.Property.codesOf "joincontrol")

def asciiWordCodes : CodeSet :=
  ⟨[('0'.toNat, '9'.toNat), ('A'.toNat, 'Z'.toNat), ('_'.toNat, '_'.toNat), ('a'.toNat, 'z'.toNat)]⟩

namespace Alphabet

def words : Alphabet → CodeSet
  | .ascii => asciiWordCodes
  | .unicode => wordCodes

def isWord (a : Alphabet) (c? : Option Char) : Bool :=
  c?.any fun c => a.words.contains c.toNat

end Alphabet

inductive Look where
  | textStart
  | textEnd
  | lineStart
  | lineEnd
  /-- Lines may end in a carriage return, a line feed or both. -/
  | crlfStart
  | crlfEnd
  | wordBoundary (a : Alphabet)
  | insideOrOutside (a : Alphabet)
  | wordStart (a : Alphabet)
  | wordEnd (a : Alphabet)
  | noWordBefore (a : Alphabet)
  | noWordAfter (a : Alphabet)
  deriving DecidableEq, Repr

structure Place where
  before : Option Char
  after : Option Char

def Look.holds (p : Place) : Look → Bool
  | .textStart => p.before.isNone
  | .textEnd => p.after.isNone
  | .lineStart => p.before.all (· == '\n')
  | .lineEnd => p.after.all (· == '\n')
  | .crlfStart => p.before.all fun c => c == '\n' || (c == '\r' && p.after != some '\n')
  | .crlfEnd => p.after.all fun c => c == '\r' || (c == '\n' && p.before != some '\r')
  | .wordBoundary a => a.isWord p.before != a.isWord p.after
  | .insideOrOutside a => a.isWord p.before == a.isWord p.after
  | .wordStart a => !a.isWord p.before && a.isWord p.after
  | .wordEnd a => a.isWord p.before && !a.isWord p.after
  | .noWordBefore a => !a.isWord p.before
  | .noWordAfter a => !a.isWord p.after

inductive Pattern where
  | empty
  /-- The characters themselves, one after the other. -/
  | literal (text : List Char)
  | set (s : CodeSet)
  | look (l : Look)
  /-- A group; each has a number of its own. -/
  | capture (index : Nat) (p : Pattern)
  | seq (p q : Pattern)
  | alt (p q : Pattern)
  /-- At least `least` and at most `most` copies one after the other. -/
  | times (p : Pattern) (least : Nat) (most : Option Nat)
  deriving DecidableEq, Repr, Inhabited

def byteLength (n : Nat) : Nat :=
  if n < 0x80 then 1 else if n < 0x800 then 2 else if n < 0x10000 then 3 else 4

namespace Pattern

/-- The number of bytes of the shortest stretch; none if no stretch can match. -/
def minLength? : Pattern → Option Nat
  | .empty => some 0
  | .literal text => some (text.foldl (fun n c => n + byteLength c.toNat) 0)
  | .set s => s.ranges.head?.map fun r => byteLength r.1
  | .look _ => some 0
  | .capture _ p => p.minLength?
  | .seq p q => do return (← p.minLength?) + (← q.minLength?)
  | .alt p q => do return min (← p.minLength?) (← q.minLength?)
  | .times p least _ => p.minLength?.map (· * least)

/-- The number of bytes of the longest stretch; none if there is no bound or no stretch. -/
def maxLength? : Pattern → Option Nat
  | .empty => some 0
  | .literal text => some (text.foldl (fun n c => n + byteLength c.toNat) 0)
  | .set s => s.ranges.getLast?.map fun r => byteLength r.2
  | .look _ => some 0
  | .capture _ p => p.maxLength?
  | .seq p q => do return (← p.maxLength?) + (← q.maxLength?)
  | .alt p q => do return max (← p.maxLength?) (← q.maxLength?)
  | .times p _ most => do return (← p.maxLength?) * (← most)

def onlyEmpty (p : Pattern) : Bool :=
  p.maxLength? == some 0

def startsText : Pattern → Bool
  | .look l => l == .textStart
  | .capture _ p => p.startsText
  | .seq p q => p.startsText || (p.onlyEmpty && q.startsText)
  | .alt p q => p.startsText && q.startsText
  | .times p least _ => 0 < least && p.startsText
  | _ => false

def endsText : Pattern → Bool
  | .look l => l == .textEnd
  | .capture _ p => p.endsText
  | .seq p q => q.endsText || (q.onlyEmpty && p.endsText)
  | .alt p q => p.endsText && q.endsText
  | .times p least _ => 0 < least && p.endsText
  | _ => false

end Pattern

end CryptoSurvey
