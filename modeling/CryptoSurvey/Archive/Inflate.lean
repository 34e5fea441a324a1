import CryptoSurvey.Archive.Huffman

namespace CryptoSurvey

/-- Contents that are read from their start: the bytes that come, and whether a fault ends them. -/
structure Stream (ε : Type) where
  bytes : List UInt8
  fault? : Option ε := none

namespace Inflate

def lengthCodes : List (Nat × Nat) :=
  [(3, 0), (4, 0), (5, 0), (6, 0), (7, 0), (8, 0), (9, 0), (10, 0), (11, 1), (13, 1), (15, 1),
   (17, 1), (19, 2), (23, 2), (27, 2), (31, 2), (35, 3), (43, 3), (51, 3), (59, 3), (67, 4),
   (83, 4), (99, 4), (115, 4), (131, 5), (163, 5), (195, 5), (227, 5), (258, 0)]

def distanceCodes : List (Nat × Nat) :=
  [(1, 0), (2, 0), (3, 0), (4, 0), (5, 1), (7, 1), (9, 2), (13, 2), (17, 3), (25, 3), (33, 4),
   (49, 4), (65, 5), (97, 5), (129, 6), (193, 6), (257, 7), (385, 7), (513, 8), (769, 8),
   (1025, 9), (1537, 9), (2049, 10), (3073, 10), (4097, 11), (6145, 11), (8193, 12), (12289, 12),
   (16385, 13), (24577, 13)]

def lengthOrder : List Nat :=
  [16, 17, 18, 0, 8, 7, 9, 6, 10, 5, 11, 4, 12, 3, 13, 2, 14, 1, 15]

structure Codes where
  literals : Huffman
  distances : Huffman

def extended (table : List (Nat × Nat)) (symbol : Nat) (s : Bits) :
    Except DeflateFault (Nat × Bits) :=
  match table[symbol]? with
  | none => .error .corrupt
  | some (base, extra) => do
    let (more, s) ← s.number extra
    return (base + more, s)

/-- Appends bytes that stand at a distance before the end. There are zeros before the start. -/
def copy (distance : Nat) : Nat → Array UInt8 → Array UInt8
  | 0, out => out
  | n + 1, out =>
    let b := if distance ≤ out.size then out.getD (out.size - distance) 0 else 0
    copy distance n (out.push b)

inductive Item where
  | byte (b : UInt8)
  | reference (length distance : Nat)
  | blockEnd

def item (codes : Codes) (s : Bits) : Except DeflateFault (Item × Bits) := do
  let (symbol, s) ← codes.literals.decode s
  if symbol < 256 then return (.byte symbol.toUInt8, s)
  if symbol == 256 then return (.blockEnd, s)
  let (length, s) ← extended lengthCodes (symbol - 257) s
  let (symbol, s) ← codes.distances.decode s
  let (distance, s) ← extended distanceCodes symbol s
  return (.reference length distance, s)

/-- Expands the items of a block; each takes at least one bit. -/
def items (codes : Codes) : Nat → Array UInt8 → Bits → Array UInt8 × Except DeflateFault Bits
  | 0, out, _ => (out, .error .incomplete)
  | fuel + 1, out, s =>
    match item codes s with
    | .error e => (out, .error e)
    | .ok (.byte b, s) => items codes fuel (out.push b) s
    | .ok (.reference length distance, s) => items codes fuel (copy distance length out) s
    | .ok (.blockEnd, s) => (out, .ok s)

def fixedCodes : Except DeflateFault Codes :=
  let lengths := List.replicate 144 8 ++ List.replicate 112 9 ++ List.replicate 24 7 ++
    List.replicate 8 8
  match Huffman.ofLengths? lengths true, Huffman.ofLengths? (List.replicate 32 5) true with
  | some literals, some distances => .ok { literals, distances }
  | _, _ => .error .corrupt

def triples : Nat → Bits → Except DeflateFault (List Nat × Bits)
  | 0, s => .ok ([], s)
  | n + 1, s => do
    let (x, s) ← s.number 3
    let (xs, s) ← triples n s
    return (x :: xs, s)

/-- Reads lengths of words until there are `count`, in reverse. Three symbols repeat the last length
or zero; each step takes at least one bit. -/
def wordLengths (code : Huffman) (count : Nat) :
    Nat → List Nat → Bits → Except DeflateFault (List Nat × Bits)
  | 0, _, _ => .error .incomplete
  | fuel + 1, done, s => do
    if count ≤ done.length then
      if count < done.length then .error .corrupt else return (done, s)
    else
      let (symbol, s) ← code.decode s
      if symbol < 16 then wordLengths code count fuel (symbol :: done) s
      else if symbol == 16 then
        match done with
        | [] => .error .corrupt
        | last :: _ =>
          let (n, s) ← s.number 2
          wordLengths code count fuel (List.replicate (n + 3) last ++ done) s
      else if symbol == 17 then
        let (n, s) ← s.number 3
        wordLengths code count fuel (List.replicate (n + 3) 0 ++ done) s
      else
        let (n, s) ← s.number 7
        wordLengths code count fuel (List.replicate (n + 11) 0 ++ done) s

def demand {α : Type} : Option α → Except DeflateFault α
  | some a => .ok a
  | none => .error .corrupt

def ownCodes (s : Bits) : Except DeflateFault (Codes × Bits) := do
  let (literalCount, s) ← s.number 5
  let (distanceCount, s) ← s.number 5
  let (orderCount, s) ← s.number 4
  let literalCount := literalCount + 257
  let distanceCount := distanceCount + 1
  if 286 < literalCount || 30 < distanceCount then .error .corrupt
  let (given, s) ← triples (orderCount + 4) s
  let orders := lengthOrder.zip given
  let code ← demand (Huffman.ofLengths? ((List.range 19).map fun i => (orders.lookup i).getD 0) false)
  let (done, s) ← wordLengths code (literalCount + distanceCount) (s.size + 1) [] s
  let lengths := done.reverse
  let literals ← demand (Huffman.ofLengths? (lengths.take literalCount) true)
  let distances ← demand (Huffman.ofLengths? (lengths.drop literalCount) true)
  return ({ literals, distances }, s)

def verbatim : Nat → Array UInt8 → List UInt8 → Array UInt8 × Except DeflateFault Bits
  | 0, out, bytes => (out, .ok ⟨[], bytes⟩)
  | _ + 1, out, [] => (out, .error .incomplete)
  | n + 1, out, b :: bytes => verbatim n (out.push b) bytes

/-- Expands a block of bytes that are not compressed. Their number is given twice, the second time
with every bit changed. -/
def storedBlock (out : Array UInt8) (s : Bits) : Array UInt8 × Except DeflateFault Bits :=
  let header := do
    let (length, s) ← s.align.number 16
    let (check, s) ← s.number 16
    if length + check == 0xffff then return (length, s) else .error .corrupt
  match header with
  | .error e => (out, .error e)
  | .ok (length, s) => verbatim length out s.bytes

def block (kind : Nat) (out : Array UInt8) (s : Bits) : Array UInt8 × Except DeflateFault Bits :=
  match kind with
  | 0 => storedBlock out s
  | 1 =>
    match fixedCodes with
    | .error e => (out, .error e)
    | .ok codes => items codes (s.size + 1) out s
  | 2 =>
    match ownCodes s with
    | .error e => (out, .error e)
    | .ok (codes, s) => items codes (s.size + 1) out s
  | _ => (out, .error .corrupt)

/-- Expands blocks up to the last one; each takes at least three bits. -/
def blocks : Nat → Array UInt8 → Bits → Array UInt8 × Option DeflateFault
  | 0, out, _ => (out, some .incomplete)
  | fuel + 1, out, s =>
    match s.next with
    | .error e => (out, some e)
    | .ok (last, s) =>
      match s.number 2 with
      | .error e => (out, some e)
      | .ok (kind, s) =>
        match block kind out s with
        | (out, .error e) => (out, some e)
        | (out, .ok s) => if last then (out, none) else blocks fuel out s

def chunkSize : Nat := 0x2000

def windowSize : Nat := 0x8000

def attempt (compressed : List UInt8) : Array UInt8 × Option DeflateFault :=
  blocks (8 * compressed.length + 1) #[] { bytes := compressed }

/-- The number of bytes that whole chunks expand to before the one with the fault. -/
def beforeChunk (compressed : List UInt8) : Nat :=
  let attempts := (List.range (compressed.length / chunkSize + 1)).map fun n =>
    attempt (compressed.take (n * chunkSize))
  (attempts.takeWhile fun a => a.2 != some .corrupt).foldl (fun _ a => a.1.size) 0

/-- The number of bytes before the portion in which corrupt data are found. A portion ends with a chunk
that is used up, or when one more byte would not fit the window. -/
def beforePortion (compressed : List UInt8) (size : Nat) : Nat :=
  max ((size - 1) / windowSize * windowSize) (beforeChunk compressed)

/-- The expanded contents of compressed bytes; what follows the last block does not count. -/
def expand (compressed : List UInt8) : Stream DeflateFault :=
  let (out, fault?) := attempt compressed
  let kept := if fault? == some .corrupt then beforePortion compressed out.size else out.size
  { bytes := out.toList.take kept, fault? }

end Inflate

end CryptoSurvey
