import CryptoSurvey.Text.Quoted
import CryptoSurvey.Text.Utf8

namespace CryptoSurvey

inductive HexError where
  | oddLength
  | badDigit (byte : UInt8) (position : Nat)
  deriving DecidableEq, Repr

def HexError.message : HexError → String
  | .oddLength => "Odd number of digits"
  | .badDigit b i =>
    "Invalid character " ++ Text.quoteChar (Char.ofNat b.toNat) ++ " at position " ++ toString i

namespace Hex

def digit? (b : UInt8) : Option UInt8 :=
  if 0x30 ≤ b && b ≤ 0x39 then some (b - 0x30)
  else if 0x61 ≤ b && b ≤ 0x66 then some (b - 0x57)
  else if 0x41 ≤ b && b ≤ 0x46 then some (b - 0x37)
  else none

def digitAt (b : UInt8) (i : Nat) : Except HexError UInt8 :=
  match digit? b with
  | some d => .ok d
  | none => .error (.badDigit b i)

def decodeFrom (i : Nat) : List UInt8 → Except HexError (List UInt8)
  | [] => .ok []
  | [_] => .error .oddLength
  | a :: b :: rest => do
    let high ← digitAt a i
    let low ← digitAt b (i + 1)
    return (16 * high + low) :: (← decodeFrom (i + 2) rest)

/-- The bytes that a text spells; its length is checked before its digits. -/
def decode (s : String) : Except HexError (List UInt8) :=
  let bytes := Text.utf8 s
  if bytes.length % 2 == 1 then .error .oddLength else decodeFrom 0 bytes

def digitChar (d : UInt8) : Char :=
  Char.ofNat (if d < 10 then 0x30 + d.toNat else 0x57 + d.toNat)

def encode (bytes : List UInt8) : String :=
  String.ofList (bytes.flatMap fun b => [digitChar (b / 16), digitChar (b % 16)])

end Hex

end CryptoSurvey
