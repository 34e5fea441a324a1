import CryptoSurvey.Hex
import CryptoSurvey.Text.Blank
import CryptoSurvey.Text.LowerCase

namespace CryptoSurvey

structure Constant where
  name : String
  bytes : List UInt8
  deriving DecidableEq, Inhabited

def Constant.ofHex (name digits : String) : Except HexError Constant := do
  return { name, bytes := ← Hex.decode (Text.removeBlanks digits) }

structure Algorithm where
  name : String
  aliases : List String
  constants : List Constant
  deriving DecidableEq, Inhabited

namespace Algorithm

def configured (name : String) (aliases : List String) (constants : List Constant) : Algorithm where
  name := Text.lowerCase name
  aliases := aliases.map Text.lowerCase
  constants := constants

def patterns (a : Algorithm) : List String :=
  a.name :: a.aliases

def constant? (a : Algorithm) (name : String) : Option Constant :=
  a.constants.find? (·.name == name)

end Algorithm

inductive RegistryFault where
  | emptyName
  | emptyAlias (algorithm : String)
  | repeatedName (pattern : String)
  | emptyConstant (constant : String)
  | repeatedConstant (constant : String)
  deriving DecidableEq, Repr

namespace RegistryFault

def ofPatterns? (algorithm : String) (seen : List String) : List String → Option RegistryFault
  | [] => none
  | p :: rest =>
    if Text.isBlankText p then some (.emptyAlias algorithm)
    else if seen.contains p then some (.repeatedName p)
    else ofPatterns? algorithm (p :: seen) rest

def ofConstants? (seen : List String) : List Constant → Option RegistryFault
  | [] => none
  | c :: rest =>
    if c.bytes.isEmpty then some (.emptyConstant c.name)
    else if seen.contains c.name then some (.repeatedConstant c.name)
    else ofConstants? (c.name :: seen) rest

/-- The first fault of one algorithm: its name, its patterns, then its constants. -/
def ofAlgorithm? (patterns constants : List String) (a : Algorithm) : Option RegistryFault :=
  if Text.isBlankText a.name then some .emptyName
  else (ofPatterns? a.name patterns a.patterns).or (ofConstants? constants a.constants)

/-- The first fault of a list, given the patterns and the constant names seen before. -/
def first? (patterns constants : List String) : List Algorithm → Option RegistryFault
  | [] => none
  | a :: rest =>
    (ofAlgorithm? patterns constants a).or
      (first? (a.patterns ++ patterns) (a.constants.map (·.name) ++ constants) rest)

end RegistryFault

/-- The known algorithms in their order of priority: every tie between two goes to the earlier one. -/
structure Registry where
  algorithms : List Algorithm
  faultless : RegistryFault.first? [] [] algorithms = none

namespace Registry

instance : EmptyCollection Registry := ⟨⟨[], rfl⟩⟩

instance : Inhabited Registry := ⟨∅⟩

def ofAlgorithms (algorithms : List Algorithm) : Except RegistryFault Registry :=
  match h : RegistryFault.first? [] [] algorithms with
  | none => .ok ⟨algorithms, h⟩
  | some fault => .error fault

def get? (r : Registry) (name : String) : Option Algorithm :=
  r.algorithms.find? (·.name == name)

/-- The position of an algorithm; a lower one is stronger. -/
def priority? (r : Registry) (name : String) : Option Nat :=
  r.algorithms.findIdx? (·.name == name)

/-- Every constant with its owner, in order of priority. -/
def constants (r : Registry) : List (Algorithm × Constant) :=
  r.algorithms.flatMap fun a => a.constants.map (a, ·)

def constantCount (r : Registry) : Nat :=
  r.constants.length

def owners (r : Registry) (constant : String) : List Algorithm :=
  r.algorithms.filter fun a => (a.constant? constant).isSome

def size (r : Registry) : Nat :=
  r.algorithms.length

end Registry

end CryptoSurvey
