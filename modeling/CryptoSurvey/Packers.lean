import CryptoSurvey.Error
import CryptoSurvey.Ordered.Set
import CryptoSurvey.Pattern.Reader
import CryptoSurvey.Pattern.Search

namespace CryptoSurvey

structure Packers where
  names : OrderedSet String
  patterns : List Pattern

namespace Packers

instance : EmptyCollection Packers := ⟨⟨∅, []⟩⟩

def ofTexts (names patterns : List String) : Except RulesError Packers := do
  let patterns ← patterns.mapM fun text =>
    match Pattern.parse text with
    | .ok p => .ok p
    | .error e => .error (.invalidPattern text e.message)
  return { names := .ofList names, patterns }

def isPacker (p : Packers) (fileName : String) : Bool :=
  p.names.contains fileName || p.patterns.any (·.occursIn fileName)

end Packers

end CryptoSurvey
