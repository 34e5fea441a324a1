import CryptoSurvey.Pattern.Build
import CryptoSurvey.Pattern.Bytes
import CryptoSurvey.Text.Utf8
import Std.Data.HashMap

namespace CryptoSurvey

open Text (CodeSet)

/-- The size of an automaton: its states, and the bytes of the links that they keep in lists. -/
structure Footprint where
  states : Nat := 0
  linkBytes : Nat := 0

namespace Footprint

def bytes (f : Footprint) : Nat :=
  32 * f.states + f.linkBytes

def limit : Nat := 0xa00000

end Footprint

abbrev Counting := StateT Footprint Option

inductive Direction where
  | forwards
  | backwards
  deriving DecidableEq, Repr

namespace Counting

def grow (states linkBytes : Nat) : Counting Unit := do
  let f ← get
  let grown : Footprint := ⟨f.states + states, f.linkBytes + linkBytes⟩
  if grown.bytes > Footprint.limit then failure
  set grown

/-- A new state, by its number; `linkBytes` is what its list of links takes. -/
def state (linkBytes : Nat) : Counting Nat := do
  let n := (← get).states
  grow 1 linkBytes
  return n

def plain (count : Nat) : Counting Unit :=
  grow count 0

def fork : Counting Unit :=
  grow 0 4

def link (fromFork : Bool) : Counting Unit :=
  if fromFork then fork else pure ()

structure Edge where
  range : ByteRange
  target : Nat
  deriving DecidableEq

/-- Nodes by their place in a table of limited size; a new node takes the place of an old one. -/
abbrev Table (α : Type) := Std.HashMap UInt64 (α × Nat)

def mix (h : UInt64) (n : Nat) : UInt64 :=
  (h ^^^ n.toUInt64) * 1099511628211

def mixAll (ns : List Nat) : UInt64 :=
  ns.foldl mix 14695981039346656037

def node (table : Table (List Edge)) (edges : List Edge) : Counting (Table (List Edge) × Nat) := do
  let place := mixAll (edges.flatMap fun e => [e.range.1, e.range.2, e.target]) % 10000
  match table[place]? with
  | some (es, n) => if es == edges then return (table, n) else fresh place
  | none => fresh place
where
  fresh (place : UInt64) : Counting (Table (List Edge) × Nat) := do
    let n ← state (8 * edges.length)
    return (table.insert place (edges, n), n)

/-- Puts a piece in front of others, given by the ranges that they start with and what follows. -/
def joinStarts (piece : List ByteRange) (starts : List (ByteRange × List (List ByteRange))) :
    List (ByteRange × List (List ByteRange)) :=
  match piece, starts with
  | [], starts => starts
  | r :: tail, [] => [(r, [tail])]
  | r :: tail, (q, tails) :: rest =>
    if r == q then (q, tail :: tails) :: rest else (r, [tail]) :: (q, tails) :: rest

/-- The node where pieces start, after the nodes that it links to. A piece has at most `depth`
ranges. -/
def nodes (final : Nat) :
    Nat → Table (List Edge) → List (List ByteRange) → Counting (Table (List Edge) × Nat)
  | 0, table, _ => return (table, final)
  | depth + 1, table, pieces => do
    let (table, edges) ← (pieces.foldr joinStarts []).foldlM
      (fun (table, edges) (r, tails) => do
        if tails.all List.isEmpty then return (table, ⟨r, final⟩ :: edges)
        let (table, n) ← nodes final depth table tails
        return (table, ⟨r, n⟩ :: edges))
      (table, [])
    node table edges.reverse

def chain (table : Table Edge) (start : Nat) : List ByteRange → Counting (Table Edge)
  | [] => return table
  | r :: rest => do
    let place := mixAll [start, r.1, r.2] % 1000
    let edge : Edge := ⟨r, start⟩
    let found? := table[place]?.bind fun (e, n) => if e == edge then some n else none
    match found? with
    | some n => chain table n rest
    | none => do
      let n ← state 0
      chain (table.insert place (edge, n)) n rest

def characters (d : Direction) (s : CodeSet) : Counting Unit := do
  let final ← state 0
  if s.isAscii then discard <| state (8 * s.ranges.length)
  else
    match d with
    | .forwards => discard <| nodes final 4 ∅ (ByteRange.ofSet s)
    | .backwards =>
      let last ← state 0
      discard <| (ByteRange.ofSet s).foldlM
        (fun table piece => do
          let table ← chain table last piece
          fork
          return table)
        ∅

def segments : List (List UInt8) → List (List (List UInt8))
  | [] => [[]]
  | w :: rest =>
    match w, segments rest with
    | [], segs => [] :: segs
    | w, [] => [[w]]
    | w, seg :: segs => (w :: seg) :: segs

/-- A choice between words, read from one state; no word has more than `depth` bytes. -/
def words : Nat → List (List UInt8) → Counting Unit
  | 0, _ => return
  | depth + 1, ws => do
    -- Of the words that end here before any goes on, one is kept.
    let ended := ws.takeWhile List.isEmpty
    let segs := segments (ended.take 1 ++ ws.drop ended.length)
    for seg in segs do
      let starts := (seg.filterMap List.head?).eraseDups
      for b in starts do
        let tails := seg.filterMap fun w => if w.head? == some b then some w.tail else none
        unless tails.all List.isEmpty do words depth tails
      unless starts.isEmpty do
        discard <| state (if starts.length == 1 then 0 else 8 * starts.length)
    let links := (segs.filter (!·.isEmpty)).length + (segs.length - 1)
    discard <| state (4 * links)

/-- Copies one after the other; says whether the last state is a fork. -/
def copies (one : Counting Bool) : Nat → Counting Bool
  | 0 => do plain 1; return false
  | n + 1 => do go n (← one)
where
  go : Nat → Bool → Counting Bool
    | 0, forked => return forked
    | n + 1, forked => do
      let next ← one
      link forked
      go n next

/-- Copies that may be left out, each after a fork; `forked` says whether they follow a fork. -/
def optional (one : Counting Bool) : Nat → Bool → Counting Unit
  | 0, forked => link forked
  | n + 1, forked => do
    plain 1
    let next ← one
    link forked
    fork
    fork
    optional one n next

/-- Repetitions; `consumes` says that every copy takes at least one byte. -/
def times (one : Counting Bool) (consumes : Bool) (least : Nat) : Option Nat → Counting Bool
  | none =>
    match least with
    | 0 => do
      if consumes then
        plain 1
        let forked ← one
        fork
        link forked
        return true
      else
        let forked ← one
        plain 3
        link forked
        grow 0 16
        return false
    | 1 => do
      let forked ← one
      plain 1
      link forked
      fork
      return true
    | n + 2 => do
      let before ← copies one (n + 1)
      let forked ← one
      plain 1
      link before
      link forked
      fork
      return true
  | some most => do
    if least == 0 && most == 1 then
      plain 1
      let forked ← one
      plain 1
      fork
      fork
      link forked
      return false
    else if least == most then copies one least
    else
      let forked ← copies one least
      plain 1
      optional one (most - least) forked
      return false

/-- Where a pattern stands: on its own, or as the next branch of a choice. Of the second branch it is
known whether the first ends in a fork. -/
inductive Role where
  | whole
  | second (firstForked : Bool)
  | later

/-- Ends a pattern, given whether its last state is a fork. The states that begin and end a choice come
after its second branch. -/
def Role.settle (forked : Bool) : Role → Counting Bool
  | .whole => return forked
  | .second firstForked => do
    plain 2
    fork
    link firstForked
    fork
    link forked
    return false
  | .later => do
    fork
    link forked
    return false

def word? : Pattern → Option (List UInt8)
  | .literal text => some (Text.utf8 (String.ofList text))
  | _ => none

def words? (p q : Pattern) : Option (List (List UInt8)) :=
  (p :: q.branches).mapM word?

def pattern (d : Direction) : Role → Pattern → Counting Bool
  | role, .empty => do plain 1; role.settle false
  | role, .literal text => do
    plain (Text.utf8 (String.ofList text)).length
    role.settle false
  | role, .set s => do characters d s; role.settle false
  | role, .look _ => do plain 1; role.settle false
  | role, .capture _ p => do
    match d with
    | .forwards =>
      plain 1
      let forked ← pattern d .whole p
      plain 1
      link forked
      role.settle false
    | .backwards => role.settle (← pattern d .whole p)
  | role, .seq p q => do
    match d with
    | .forwards =>
      let forked ← pattern d .whole p
      let next ← pattern d .whole q
      link forked
      role.settle next
    | .backwards =>
      let forked ← pattern d .whole q
      let next ← pattern d .whole p
      link forked
      role.settle next
  | .whole, .alt p q => do
    match words? p q with
    | some ws =>
      let ws := if d == .backwards then ws.map List.reverse else ws
      plain 1
      words ((ws.map List.length).foldl max 0) ws
      return false
    | none =>
      let forked ← pattern d .whole p
      pattern d (.second forked) q
  | role, .alt p q => do
    discard <| role.settle (← pattern d .whole p)
    pattern d .later q
  | role, .times p least most => do
    role.settle (← times (pattern d .whole p) (p.minLength?.any (0 < ·)) least most)

/-- A whole automaton. Unless all matches are at the start of the text, it first passes over any
bytes. -/
def automaton (d : Direction) (p : Pattern) : Counting Unit := do
  let anchored := match d with
    | .forwards => p.startsText
    | .backwards => p.endsText
  if anchored then plain 1 else grow 3 (8 + 4 + 4)
  match d with
  | .forwards =>
    plain 1
    link (← pattern d .whole p)
    plain 2
  | .backwards =>
    link (← pattern d .whole p)
    plain 1

end Counting

/-- Both automata of the pattern fit the limit. A choice between many words needs none. -/
def Pattern.fits (p : Pattern) : Bool :=
  let manyWords := 3000 ≤ p.branches.length && p.branches.all fun q => (Counting.word? q).isSome
  manyWords || [Direction.forwards, .backwards].all fun d =>
    ((Counting.automaton d p).run {}).isSome

end CryptoSurvey
