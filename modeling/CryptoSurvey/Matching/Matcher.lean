import CryptoSurvey.Matching.Base64
import CryptoSurvey.Matching.Exclusion
import CryptoSurvey.Registry

namespace CryptoSurvey

/-- What a text is: identifiers are never filtered, literal strings are. -/
inductive TextKind where
  | identifier
  | literal
  deriving DecidableEq, Repr

/-- The lower-case patterns with their algorithms, in order of priority, and the filters. -/
structure Matcher where
  patterns : List (String × String)
  exclusions : Exclusions

namespace Matcher

def ofRegistry (registry : Registry) (exclusions : Exclusions) : Matcher where
  patterns := registry.algorithms.flatMap fun a => a.patterns.map (Text.lowerCase ·, a.name)
  exclusions := exclusions

/-- The maximal runs of ASCII letters and digits, with an open run given in reverse. -/
def tokensFrom (run : List Char) : List Char → List (List Char)
  | [] => if run.isEmpty then [] else [run.reverse]
  | c :: rest =>
    if c.isAlphanum then tokensFrom (c :: run) rest
    else if run.isEmpty then tokensFrom [] rest
    else run.reverse :: tokensFrom [] rest

def tokens (s : String) : List (List Char) :=
  tokensFrom [] s.toList

/-- The algorithm of the first pattern that stands anywhere in a lowered text. -/
def substring? (m : Matcher) (lowered : String) : Option String :=
  let cs := lowered.toList
  (m.patterns.find? fun p => Search.occurs p.1.toList cs).map (·.2)

/-- The algorithm of the first pattern that is a whole token of a lowered text. -/
def token? (m : Matcher) (lowered : String) : Option String :=
  let ts := tokens lowered
  (m.patterns.find? fun p => ts.contains p.1.toList).map (·.2)

def looksLikeBase64 (m : Matcher) (value : String) : Bool :=
  Base64.looksEncoded m.exclusions.base64MinLength value

def algorithm? (m : Matcher) (value : String) : TextKind → Option String
  | .identifier => m.substring? (Text.lowerCase value)
  | .literal =>
    if (m.exclusions.exclusion? value).isSome then none
    else if m.looksLikeBase64 value then m.token? (Text.lowerCase value)
    else m.substring? (Text.lowerCase value)

end Matcher

end CryptoSurvey
