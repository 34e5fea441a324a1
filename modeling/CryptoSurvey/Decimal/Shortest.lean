namespace CryptoSurvey.Decimal

/-- A positive number `mantissa * 2 ^ exponent`, with the interval of reals that round to it: half a
unit above, and half or a quarter of a unit below. -/
structure Binary where
  mantissa : Nat
  exponent : Int
  narrowBelow : Bool

structure Numeral where
  digits : Nat
  exponent : Int
  deriving DecidableEq, Repr

namespace Binary

def unit (b : Binary) : Nat := Nat.pow 2 b.exponent.toNat

def denominator (b : Binary) : Nat := 4 * Nat.pow 2 (-b.exponent).toNat

def numerator (b : Binary) : Nat := 4 * b.mantissa * b.unit

/-- The decimal rounds to the number. The ends of the interval do so if the mantissa is even. -/
def readsBack (b : Binary) (d : Numeral) : Bool :=
  let scaled := d.digits * Nat.pow 10 d.exponent.toNat * b.denominator
  let scale := Nat.pow 10 (-d.exponent).toNat
  let low := (4 * b.mantissa - if b.narrowBelow then 1 else 2) * b.unit * scale
  let high := (4 * b.mantissa + 2) * b.unit * scale
  if b.mantissa % 2 == 0 then low ≤ scaled && scaled ≤ high else low < scaled && scaled < high

def magnitude (b : Binary) : Int :=
  if b.denominator ≤ b.numerator then
    ((Nat.toDigits 10 (b.numerator / b.denominator)).length : Int) - 1
  else
    match (List.range 400).find? fun k => b.denominator ≤ b.numerator * Nat.pow 10 k with
    | some k => -k
    | none => -400

/-- The nearer of the two neighbours with `count` digits, among those that read back. -/
def candidate? (b : Binary) (count : Nat) : Option Numeral :=
  let exponent := b.magnitude - (count : Int) + 1
  let top := b.numerator * Nat.pow 10 (-exponent).toNat
  let bottom := b.denominator * Nat.pow 10 exponent.toNat
  let below : Numeral := ⟨top / bottom, exponent⟩
  let above : Numeral := ⟨top / bottom + 1, exponent⟩
  match b.readsBack below, b.readsBack above with
  | true, true => some (if 2 * (top % bottom) ≤ bottom then below else above)
  | true, false => some below
  | false, true => some above
  | false, false => none

/-- The decimal with the fewest digits that reads back; of those, the nearest. -/
def shortest (b : Binary) : Numeral :=
  ((List.range 17).findSome? fun n => b.candidate? (n + 1)).getD ⟨b.mantissa, 0⟩

end Binary

def Binary.ofFloat (f : Float) : Binary :=
  let bits := f.toBits.toNat
  let fraction := bits % 0x10000000000000
  let exponent : Nat := bits / 0x10000000000000 % 0x800
  if exponent == 0 then ⟨fraction, -1074, false⟩
  else ⟨fraction + 0x10000000000000, (exponent : Int) - 1075, fraction == 0 && exponent != 1⟩

/-- Digits with a point after the first `whole`; zeros fill the places that have none. -/
def positional (digits : List Char) (whole : Int) : String :=
  if whole ≤ 0 then
    "0." ++ String.ofList (List.replicate (-whole).toNat '0' ++ digits)
  else
    let n := whole.toNat
    let before := digits.take n ++ List.replicate (n - digits.length) '0'
    let after := if (digits.drop n).isEmpty then ['0'] else digits.drop n
    String.ofList (before ++ '.' :: after)

def scientific (digits : List Char) (exponent : Int) : String :=
  let shown := match digits with
    | [] => []
    | [d] => [d]
    | d :: rest => d :: '.' :: rest
  String.ofList shown ++ (if exponent < 0 then "e-" else "e+") ++ toString exponent.natAbs

/-- The text of a finite double: positional for numbers from `10⁻⁵` up to `10¹⁶`. -/
def ofFloat (f : Float) : String :=
  let sign := if f.toBits.toNat ≥ 0x8000000000000000 then "-" else ""
  if f == 0 then sign ++ "0.0"
  else
    let d := (Binary.ofFloat f).shortest
    let all := Nat.toDigits 10 d.digits
    let digits := (all.reverse.dropWhile (· == '0')).reverse
    let exponent := d.exponent + (all.length : Int) - 1
    sign ++ if -5 ≤ exponent && exponent ≤ 15 then positional digits (exponent + 1)
      else scientific digits exponent

end CryptoSurvey.Decimal
