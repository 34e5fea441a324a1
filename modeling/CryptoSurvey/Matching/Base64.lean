namespace CryptoSurvey.Base64

def isDigit (c : Char) : Bool :=
  c.isAlphanum || c == '+' || c == '/'

def body (cs : List Char) : List Char :=
  (cs.reverse.dropWhile (· == '=')).reverse

/-- A text of at least `minLength` bytes, and at least one, that an encoder could have written. -/
def looksEncoded (minLength : Nat) (value : String) : Bool :=
  let cs := value.toList
  let digits := body cs
  let padding := cs.length - digits.length
  max minLength 1 ≤ value.utf8ByteSize && padding ≤ 2 && !digits.isEmpty && digits.all isDigit &&
    if padding == 0 then digits.length % 4 != 1 else cs.length % 4 == 0

end CryptoSurvey.Base64
