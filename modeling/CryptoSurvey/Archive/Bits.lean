namespace CryptoSurvey

inductive DeflateFault where
  | incomplete
  | corrupt
  deriving DecidableEq, Repr

/-- The bits that are left of the current byte, and the bytes after it. -/
structure Bits where
  spare : List Bool := []
  bytes : List UInt8

namespace Bits

def ofByte (b : UInt8) : List Bool :=
  (List.range 8).map fun i => b.toNat.testBit i

def next (s : Bits) : Except DeflateFault (Bool × Bits) :=
  match s.spare, s.bytes with
  | b :: spare, bytes => .ok (b, ⟨spare, bytes⟩)
  | [], b :: bytes =>
    match ofByte b with
    | [] => .error .incomplete
    | b :: spare => .ok (b, ⟨spare, bytes⟩)
  | [], [] => .error .incomplete

/-- A number of the given number of bits, the least first. -/
def number : Nat → Bits → Except DeflateFault (Nat × Bits)
  | 0, s => .ok (0, s)
  | n + 1, s => do
    let (b, s) ← s.next
    let (rest, s) ← number n s
    return (b.toNat + 2 * rest, s)

def align (s : Bits) : Bits :=
  ⟨[], s.bytes⟩

def size (s : Bits) : Nat :=
  s.spare.length + 8 * s.bytes.length

end Bits

end CryptoSurvey
