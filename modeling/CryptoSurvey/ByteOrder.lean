namespace CryptoSurvey

inductive ByteOrder where
  | leastFirst
  | mostFirst
  deriving DecidableEq, Repr

/-- The number whose bytes come least first. -/
def wordOf : List UInt8 → Nat
  | [] => 0
  | b :: bs => b.toNat + 256 * wordOf bs

def ByteOrder.word (order : ByteOrder) (bs : List UInt8) : Nat :=
  match order with
  | .leastFirst => wordOf bs
  | .mostFirst => wordOf bs.reverse

/-- Words of eight bytes are below. -/
def wordLimit : Nat := 0x10000000000000000

namespace Bytes

/-- The bytes of a file from an offset on, if there are that many. No bytes are there at any offset. -/
def slice? (data : ByteArray) (offset size : Nat) : Option (List UInt8) :=
  if size = 0 then some []
  else if offset + size ≤ data.size then
    some (data.extract offset (offset + size)).data.toList
  else none

def word? (data : ByteArray) (order : ByteOrder) (offset width : Nat) : Option Nat :=
  (slice? data offset width).map order.word

theorem slice?_eq {data : ByteArray} {offset size : Nat} {bs : List UInt8}
    (h : slice? data offset size = some bs) :
    (size = 0 ∨ offset + size ≤ data.size) ∧ bs = (data.data.toList.drop offset).take size := by
  unfold slice? at h
  split at h
  · rename_i hzero
    refine ⟨.inl hzero, ?_⟩
    rw [← Option.some.inj h, hzero, List.take_zero]
  · split at h
    · rename_i hle
      refine ⟨.inr hle, ?_⟩
      rw [← Option.some.inj h]
      simp [ByteArray.data_extract]
    · simp at h

end Bytes

end CryptoSurvey
