import CryptoSurvey.Text.Cased
import CryptoSurvey.Text.LowerCase.Table

namespace CryptoSurvey.Text

def lowerChar (c : Char) : List Char :=
  if c.toNat < 0x80 then [c.toLower]
  else if c == '\u0130' then ['i', '\u0307']
  else match lowerCode? c.toNat with
    | some n => [Char.ofNat n]
    | none => [c]

def nextIsCased (cs : List Char) : Bool :=
  match cs.dropWhile isCaseIgnorable with
  | [] => false
  | c :: _ => isCased c

/-- Capital sigma ends a word if a cased character precedes it and none follows. -/
def lowerSigma (before after : List Char) : Char :=
  if nextIsCased before && !nextIsCased after then 'ς' else 'σ'

/-- Lowers a text, given the characters already passed, nearest first. -/
def lowerFrom (before : List Char) : List Char → List Char
  | [] => []
  | c :: rest =>
    if c == 'Σ' then lowerSigma before rest :: lowerFrom (c :: before) rest
    else lowerChar c ++ lowerFrom (c :: before) rest

def lowerCase (s : String) : String :=
  String.ofList (lowerFrom [] s.toList)

end CryptoSurvey.Text
