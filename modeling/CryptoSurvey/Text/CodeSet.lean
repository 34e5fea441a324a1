namespace CryptoSurvey.Text

/-- A set of code points as closed ranges in increasing order. -/
structure CodeSet where
  ranges : List (Nat × Nat)
  deriving DecidableEq, Repr, Inhabited

namespace CodeSet

instance : EmptyCollection CodeSet := ⟨⟨[]⟩⟩

def contains (s : CodeSet) (n : Nat) : Bool :=
  s.ranges.any fun r => r.1 ≤ n && n ≤ r.2

def maxCode : Nat := 0x10ffff

def all : CodeSet := ⟨[(0, maxCode)]⟩

def single (n : Nat) : CodeSet := ⟨[(n, n)]⟩

def isAscii (s : CodeSet) : Bool :=
  s.ranges.getLast?.all fun r => r.2 < 0x80

/-- Joins ranges that overlap or touch, given the ranges in increasing order. -/
def join : List (Nat × Nat) → List (Nat × Nat)
  | [] => []
  | [r] => [r]
  | r :: q :: rest =>
    if q.1 ≤ r.2 + 1 then join ((r.1, max r.2 q.2) :: rest) else r :: join (q :: rest)
termination_by rs => rs.length

def before (a b : Nat × Nat) : Bool :=
  a.1 < b.1 || (a.1 == b.1 && a.2 ≤ b.2)

def ofRanges (rs : List (Nat × Nat)) : CodeSet :=
  ⟨join (rs.mergeSort before)⟩

def mergeRanges : List (Nat × Nat) → List (Nat × Nat) → List (Nat × Nat)
  | [], bs => bs
  | as, [] => as
  | a :: as, b :: bs =>
    if before a b then a :: mergeRanges as (b :: bs) else b :: mergeRanges (a :: as) bs
termination_by as bs => as.length + bs.length

def union (s t : CodeSet) : CodeSet :=
  if s == t then s else ⟨join (mergeRanges s.ranges t.ranges)⟩

def interRanges : List (Nat × Nat) → List (Nat × Nat) → List (Nat × Nat)
  | [], _ => []
  | _, [] => []
  | a :: as, b :: bs =>
    let rest := if a.2 < b.2 then interRanges as (b :: bs) else interRanges (a :: as) bs
    let common := (max a.1 b.1, min a.2 b.2)
    if common.1 ≤ common.2 then common :: rest else rest
termination_by as bs => as.length + bs.length

def inter (s t : CodeSet) : CodeSet :=
  ⟨interRanges s.ranges t.ranges⟩

/-- The code point after another; surrogates are passed over. -/
def next (n : Nat) : Nat :=
  if n == 0xd7ff then 0xe000 else n + 1

/-- The code point before another; surrogates are passed over. -/
def previous (n : Nat) : Nat :=
  if n == 0xe000 then 0xd7ff else n - 1

def diffRanges : List (Nat × Nat) → List (Nat × Nat) → List (Nat × Nat)
  | [], _ => []
  | as, [] => as
  | a :: as, b :: bs =>
    if b.2 < a.1 then diffRanges (a :: as) bs
    else if a.2 < b.1 then a :: diffRanges as (b :: bs)
    else
      let rest := if b.2 < a.2 then diffRanges ((next b.2, a.2) :: as) bs
        else diffRanges as (b :: bs)
      if a.1 < b.1 then (a.1, previous b.1) :: rest else rest
termination_by as bs => as.length + bs.length

def diff (s t : CodeSet) : CodeSet :=
  ⟨diffRanges s.ranges t.ranges⟩

def symmDiff (s t : CodeSet) : CodeSet :=
  (s.union t).diff (s.inter t)

/-- The gaps after the first range. If only surrogates lie between two ranges, their neighbours count
as the gap. -/
def gapsAfter : List (Nat × Nat) → List (Nat × Nat)
  | [] => []
  | [r] => if r.2 < maxCode then [(next r.2, maxCode)] else []
  | r :: q :: rest =>
    let first := next r.2
    let last := previous q.1
    (min first last, max first last) :: gapsAfter (q :: rest)

def compl (s : CodeSet) : CodeSet :=
  match s.ranges with
  | [] => all
  | r :: rest => ⟨(if 0 < r.1 then [(0, previous r.1)] else []) ++ gapsAfter (r :: rest)⟩

def digitValue (c : Char) : Nat :=
  if c.isDigit then c.toNat - '0'.toNat else c.toNat - 'a'.toNat + 10

/-- Reads numbers and ranges from left to right; `first?` is the start of a range that a dash has
opened, and `value` the number read so far. -/
def readRanges (first? : Option Nat) (value : Nat) (done : Array (Nat × Nat)) :
    List Char → Array (Nat × Nat)
  | [] => done.push (first?.getD value, value)
  | c :: rest =>
    if c == ' ' || c == '\n' then
      readRanges none 0 (done.push (first?.getD value, value)) rest
    else if c == '-' then readRanges (some value) 0 done rest
    else readRanges first? (16 * value + digitValue c) done rest

/-- The set that a text describes, in increasing order; the empty text describes the empty set. -/
def ofText (s : String) : CodeSet :=
  if s.isEmpty then ∅ else ⟨(readRanges none 0 #[] s.toList).toList⟩

end CodeSet

end CryptoSurvey.Text
