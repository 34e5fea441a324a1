import CryptoSurvey.Pattern.Basic
import CryptoSurvey.Text.Age
import CryptoSurvey.Text.Break
import CryptoSurvey.Text.Script

namespace CryptoSurvey.Pattern

open Text (CodeSet BreakClass)

def canonicalName (name : List Char) : String :=
  let stripped := match name with
    | 'i' :: 's' :: rest | 'I' :: 's' :: rest | 'i' :: 'S' :: rest | 'I' :: 'S' :: rest => rest
    | _ => name
  let kept := (stripped.filter fun c =>
    c.toNat < 0x80 && !(c == ' ' || c == '_' || c == '-')).map Char.toLower
  -- "isc" is a name in its own right.
  if kept == ['c'] && stripped.length < name.length then "isc" else String.ofList kept

/-- Properties of characters that have values other than yes and no, or whose value is a text. -/
def valuedProperties : List String :=
  ["age", "bidiclass", "bc", "bidimirroringglyph", "bmg", "bidipairedbracket", "bpb",
   "bidipairedbrackettype", "bpt", "block", "blk", "canonicalcombiningclass", "ccc",
   "casefolding", "decompositionmapping", "dm", "decompositiontype", "dt", "eastasianwidth", "ea",
   "generalcategory", "gc", "graphemeclusterbreak", "gcb", "hangulsyllabletype", "hst",
   "indicpositionalcategory", "inpc", "indicsyllabiccategory", "insc", "isocomment", "isc",
   "joininggroup", "jg", "joiningtype", "jt", "linebreak", "lb", "lowercasemapping", "name", "na",
   "namealias", "numerictype", "nt", "numericvalue", "nv", "script", "scriptextensions", "scx",
   "sentencebreak", "sb", "simplecasefolding", "scf", "simplelowercasemapping", "slc",
   "simpletitlecasemapping", "stc", "simpleuppercasemapping", "suc", "titlecasemapping", "tc",
   "unicode1name", "na1", "uppercasemapping", "uc", "verticalorientation", "vo", "wordbreak", "wb"]

def asciiCodes : CodeSet := ⟨[(0, 0x7f)]⟩

/-- The characters of a category, or of one of the three sets that categories make up. -/
def categoryNamed? : String → Option CodeSet
  | "any" => some .all
  | "ascii" => some asciiCodes
  | "assigned" => some (Text.Category.codes .unassigned).compl
  | name => (Text.Category.named? name).map Text.Category.codesOfAll

/-- The class that a name stands for: a property, else a category, else a script. -/
def classNamed? (name : List Char) : Option CodeSet :=
  let name := canonicalName name
  -- These three are short names of categories and of other properties.
  let isCategory := name == "cf" || name == "sc" || name == "lc"
  let property? := if isCategory then none else Text.Property.named? name
  if !isCategory && valuedProperties.contains name then none
  else match property? with
    | some p => some p.codes
    | none => (categoryNamed? name).or ((Text.Script.named? name).map (·.codes))

def classWithValue? (property value : List Char) : Option CodeSet :=
  let value := canonicalName value
  match canonicalName property with
  | "gc" | "generalcategory" => categoryNamed? value
  | "sc" | "script" => (Text.Script.named? value).map (·.codes)
  | "scx" | "scriptextensions" => (Text.Script.named? value).map (·.users)
  | "age" => Text.Age.sinceNamed? value
  | "gcb" | "graphemeclusterbreak" => (BreakClass.named? Text.graphemeBreaks value).map (·.codes)
  | "wb" | "wordbreak" => (BreakClass.named? Text.wordBreaks value).map (·.codes)
  | "sb" | "sentencebreak" => (BreakClass.named? Text.sentenceBreaks value).map (·.codes)
  | _ => none

def digitCodes : CodeSet :=
  Text.Category.codes .decimalNumber

def asciiDigitCodes : CodeSet := ⟨[('0'.toNat, '9'.toNat)]⟩

def blankCodes : CodeSet :=
  Text.Property.codesOf "whitespace"

def asciiBlankCodes : CodeSet := ⟨[('\t'.toNat, '\r'.toNat), (' '.toNat, ' '.toNat)]⟩

def asciiClass? (name : String) : Option CodeSet :=
  let ranges (rs : List (Char × Char)) : Option CodeSet :=
    some ⟨rs.map fun r => (r.1.toNat, r.2.toNat)⟩
  match name with
  | "alnum" => ranges [('0', '9'), ('A', 'Z'), ('a', 'z')]
  | "alpha" => ranges [('A', 'Z'), ('a', 'z')]
  | "ascii" => some asciiCodes
  | "blank" => ranges [('\t', '\t'), (' ', ' ')]
  | "cntrl" => ranges [('\x00', '\x1f'), ('\x7f', '\x7f')]
  | "digit" => some asciiDigitCodes
  | "graph" => ranges [('!', '~')]
  | "lower" => ranges [('a', 'z')]
  | "print" => ranges [(' ', '~')]
  | "punct" => ranges [('!', '/'), (':', '@'), ('[', '\x60'), ('\x7b', '~')]
  | "space" => some asciiBlankCodes
  | "upper" => ranges [('A', 'Z')]
  | "word" => some asciiWordCodes
  | "xdigit" => ranges [('0', '9'), ('A', 'F'), ('a', 'f')]
  | _ => none

end CryptoSurvey.Pattern
