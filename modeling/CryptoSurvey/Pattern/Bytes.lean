import CryptoSurvey.Text.CodeSet

namespace CryptoSurvey

abbrev ByteRange := Nat × Nat

namespace ByteRange

def encode (n : Nat) : List Nat :=
  if n < 0x80 then [n]
  else if n < 0x800 then [0xc0 + n / 0x40, 0x80 + n % 0x40]
  else if n < 0x10000 then [0xe0 + n / 0x1000, 0x80 + n / 0x40 % 0x40, 0x80 + n % 0x40]
  else [0xf0 + n / 0x40000, 0x80 + n / 0x1000 % 0x40, 0x80 + n / 0x40 % 0x40, 0x80 + n % 0x40]

/-- Where to cut a range so that all its code points have as many bytes: the last code point of the
first piece. -/
def lengthCut? (first last : Nat) : Option Nat :=
  [0x7f, 0x7ff, 0xffff].find? fun m => first ≤ m && m < last

/-- Where to cut a range so that a byte takes either one value or all values after those before it. -/
def alignedCut? (first last : Nat) : Option Nat :=
  [0x40, 0x1000, 0x40000].findSome? fun size =>
    if first / size == last / size then none
    else if first % size != 0 then some (first / size * size + (size - 1))
    else if last % size != size - 1 then some (last / size * size - 1)
    else none

def pieces (first last : Nat) : List (List ByteRange) :=
  if last < first then []
  else
    let whole := (encode first).zip (encode last)
    match (lengthCut? first last).or (if last < 0x80 then none else alignedCut? first last) with
    | none => [whole]
    | some m =>
      if _ : first ≤ m ∧ m < last then pieces first m ++ pieces (m + 1) last else [whole]
termination_by last - first
decreasing_by all_goals omega

def ofSet (s : Text.CodeSet) : List (List ByteRange) :=
  s.ranges.flatMap fun r =>
    if r.1 < 0xe000 && 0xd7ff < r.2 then pieces r.1 0xd7ff ++ pieces 0xe000 r.2
    else pieces r.1 r.2

end ByteRange

end CryptoSurvey
