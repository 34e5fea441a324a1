import CryptoSurvey.Archive.Bits

namespace CryptoSurvey

/-- A prefix code. It is given by the lengths of its words: words of one length are consecutive
numbers in the order of their symbols, and shorter words come first. -/
inductive Huffman where
  /-- No word at all. -/
  | empty
  /-- One word, which consists of zeros. -/
  | lone (symbol length : Nat)
  /-- All words are taken: for every length from one on, the symbols with words of that length. -/
  | full (levels : List (Array Nat))

namespace Huffman

def maxLength : Nat := 15

def symbolsOf (lengths : List Nat) (length : Nat) : Array Nat :=
  (lengths.zipIdx.filterMap fun (l, symbol) => if l == length then some symbol else none).toArray

/-- The number of words of the greatest length that are not taken, or `none` if too many are. -/
def unused? (levels : List (Array Nat)) : Option Nat :=
  levels.foldlM (fun free level =>
    if level.size ≤ 2 * free then some (2 * free - level.size) else none) 1

/-- The code with the given lengths, where zero stands for no word. All words must be taken unless
`sparse` allows that there is at most one. -/
def ofLengths? (lengths : List Nat) (sparse : Bool) : Option Huffman :=
  let levels := (List.range maxLength).map fun i => symbolsOf lengths (i + 1)
  if unused? levels == some 0 then some (full levels)
  else if !sparse then none
  else
    match lengths.zipIdx.filter (·.1 != 0) with
    | [] => some empty
    | [(length, symbol)] => some (lone symbol length)
    | _ => none

/-- Reads a symbol: `first` is the first word of the current length and `code` the bits read. -/
def decodeFrom (code first : Nat) : List (Array Nat) → Bits → Except DeflateFault (Nat × Bits)
  | [], _ => .error .corrupt
  | level :: levels, s => do
    let (b, s) ← s.next
    let code := code + b.toNat
    match (if first ≤ code then level[code - first]? else none) with
    | some symbol => return (symbol, s)
    | none => decodeFrom (2 * code) (2 * (first + level.size)) levels s

/-- Reads the only symbol, after `read` of its bits. A word that is not taken is a fault, but one that
differs only after the tenth bit counts as symbol zero. -/
def decodeLone (symbol read : Nat) : Nat → Bits → Except DeflateFault (Nat × Bits)
  | 0, s => .ok (symbol, s)
  | n + 1, s => do
    let (b, s) ← s.next
    if !b then decodeLone symbol (read + 1) n s
    else if read < 10 then .error .corrupt
    else return (0, s)

/-- Reads a symbol. A code without words has none to read, which shows at the next bit. -/
def decode (h : Huffman) (s : Bits) : Except DeflateFault (Nat × Bits) :=
  match h with
  | empty => do
    let _ ← s.next
    .error .corrupt
  | lone symbol length => decodeLone symbol 0 length s
  | full levels => decodeFrom 0 0 levels s

end Huffman

end CryptoSurvey
