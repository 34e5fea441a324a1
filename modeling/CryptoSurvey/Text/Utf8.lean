namespace CryptoSurvey.Text

def utf8 (s : String) : List UInt8 :=
  s.toList.flatMap String.utf8EncodeChar

/-- How many bytes follow a leading byte, with the bounds of the first of them and the value bits
that the leading byte carries. -/
def followers? (b : UInt8) : Option (Nat × UInt8 × UInt8 × Nat) :=
  if 0xC2 ≤ b && b ≤ 0xDF then some (1, 0x80, 0xBF, b.toNat - 0xC0)
  else if b == 0xE0 then some (2, 0xA0, 0xBF, 0)
  else if b == 0xED then some (2, 0x80, 0x9F, 0xD)
  else if 0xE1 ≤ b && b ≤ 0xEF then some (2, 0x80, 0xBF, b.toNat - 0xE0)
  else if b == 0xF0 then some (3, 0x90, 0xBF, 0)
  else if 0xF1 ≤ b && b ≤ 0xF3 then some (3, 0x80, 0xBF, b.toNat - 0xF0)
  else if b == 0xF4 then some (3, 0x80, 0x8F, 4)
  else none

/-- Reads bytes with up to three still expected for an open character. A character that breaks off is
replaced as a whole, and the byte that broke it is read afresh. -/
def decodeFrom (expected : Nat) (low high : UInt8) (value : Nat) : List UInt8 → List Char
  | [] => if expected == 0 then [] else ['\uFFFD']
  | b :: rest =>
    if expected != 0 && low ≤ b && b ≤ high then
      let value := 64 * value + (b.toNat - 0x80)
      if expected == 1 then Char.ofNat value :: decodeFrom 0 0 0 0 rest
      else decodeFrom (expected - 1) 0x80 0xBF value rest
    else
      let broken := if expected == 0 then [] else ['\uFFFD']
      if b < 0x80 then broken ++ Char.ofNat b.toNat :: decodeFrom 0 0 0 0 rest
      else match followers? b with
        | some (n, low, high, value) => broken ++ decodeFrom n low high value rest
        | none => broken ++ '\uFFFD' :: decodeFrom 0 0 0 0 rest

/-- The text of bytes, with a replacement character for every malformed piece. -/
def decodeLossy (bytes : List UInt8) : String :=
  String.ofList (decodeFrom 0 0 0 0 bytes)

def decode? (bytes : ByteArray) : Option String :=
  String.fromUTF8? bytes

end CryptoSurvey.Text
