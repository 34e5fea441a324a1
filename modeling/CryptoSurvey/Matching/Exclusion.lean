import CryptoSurvey.Search
import CryptoSurvey.Text.LowerCase

namespace CryptoSurvey

structure Exclusions where
  /-- Texts that mark certificates, in this case only. -/
  certificateMarkers : List String := ["CERTIFICATE"]
  /-- The greatest length, in characters, of a string that is not taken for key material. -/
  lengthThreshold : Nat := 512
  /-- The least length of a string that is taken for base64. -/
  base64MinLength : Nat := 24
  /-- Texts of harmless strings, in any case. -/
  denylist : List String :=
    ["#EXTM3U", "#EXT-X-", "aesthetic", "caesar", "maestro", "kotlin.jvm.internal"]
  deriving DecidableEq, Inhabited

inductive Exclusion where
  | certificateMarker
  | tooLong
  | denylisted
  deriving DecidableEq, Repr

namespace Exclusions

def marks (value marker : String) : Bool :=
  !marker.isEmpty && Search.occurs marker.toList value.toList

/-- The first filter that a string falls to: markers, then length, then the denylist. -/
def exclusion? (e : Exclusions) (value : String) : Option Exclusion :=
  if e.certificateMarkers.any (marks value) then some .certificateMarker
  else if e.lengthThreshold < value.length then some .tooLong
  else if (e.denylist.map Text.lowerCase).any (marks (Text.lowerCase value)) then some .denylisted
  else none

end Exclusions

end CryptoSurvey
