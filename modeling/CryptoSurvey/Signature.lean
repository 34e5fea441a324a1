import CryptoSurvey.Ordered.Map
import CryptoSurvey.Registry
import CryptoSurvey.Search

namespace CryptoSurvey.Signature

def offset? (data signature : List UInt8) : Option Nat :=
  if signature.isEmpty then none else Search.offset? signature data

def containedIn (data signature : List UInt8) : Bool :=
  (offset? data signature).isSome

/-- The regions scanned unless the rules say otherwise. -/
def standardRegions : List String :=
  [".rodata", ".data", ".bss"]

def containedInRegions (regions : List String) (region? : String → Option (List UInt8))
    (signature : List UInt8) : Bool :=
  regions.any fun name => (region? name).any fun data => containedIn data signature

/-- For every constant of the registry, whether the scanned regions contain it. -/
def scan (regions : List String) (region? : String → Option (List UInt8)) (registry : Registry) :
    OrderedMap String Bool :=
  .ofList (registry.constants.map fun c =>
    (c.2.name, containedInRegions regions region? c.2.bytes))

/-- The constants that occur anywhere in `data`, with their least positions. -/
def locate (registry : Registry) (data : List UInt8) : OrderedMap String Nat :=
  .ofList (registry.constants.filterMap fun c =>
    (offset? data c.2.bytes).map (c.2.name, ·))

end CryptoSurvey.Signature
