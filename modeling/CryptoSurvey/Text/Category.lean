import CryptoSurvey.Text.Category.Table

namespace CryptoSurvey.Text

inductive Category where
  | uppercaseLetter
  | lowercaseLetter
  | titlecaseLetter
  | modifierLetter
  | otherLetter
  | nonspacingMark
  | spacingMark
  | enclosingMark
  | decimalNumber
  | letterNumber
  | otherNumber
  | connectorPunctuation
  | dashPunctuation
  | openPunctuation
  | closePunctuation
  | initialPunctuation
  | finalPunctuation
  | otherPunctuation
  | mathSymbol
  | currencySymbol
  | modifierSymbol
  | otherSymbol
  | spaceSeparator
  | lineSeparator
  | paragraphSeparator
  | control
  | format
  | privateUse
  | surrogate
  | unassigned
  deriving DecidableEq, Repr, Inhabited

namespace Category

def assigned : List Category :=
  [.uppercaseLetter, .lowercaseLetter, .titlecaseLetter, .modifierLetter, .otherLetter,
   .nonspacingMark, .spacingMark, .enclosingMark, .decimalNumber, .letterNumber, .otherNumber,
   .connectorPunctuation, .dashPunctuation, .openPunctuation, .closePunctuation,
   .initialPunctuation, .finalPunctuation, .otherPunctuation, .mathSymbol, .currencySymbol,
   .modifierSymbol, .otherSymbol, .spaceSeparator, .lineSeparator, .paragraphSeparator, .control,
   .format, .privateUse, .surrogate]

def listed : Category → CodeSet
  | .uppercaseLetter => uppercaseLetterCodes
  | .lowercaseLetter => lowercaseLetterCodes
  | .titlecaseLetter => titlecaseLetterCodes
  | .modifierLetter => modifierLetterCodes
  | .otherLetter => otherLetterCodes
  | .nonspacingMark => nonspacingMarkCodes
  | .spacingMark => spacingMarkCodes
  | .enclosingMark => enclosingMarkCodes
  | .decimalNumber => decimalNumberCodes
  | .letterNumber => letterNumberCodes
  | .otherNumber => otherNumberCodes
  | .connectorPunctuation => connectorPunctuationCodes
  | .dashPunctuation => dashPunctuationCodes
  | .openPunctuation => openPunctuationCodes
  | .closePunctuation => closePunctuationCodes
  | .initialPunctuation => initialPunctuationCodes
  | .finalPunctuation => finalPunctuationCodes
  | .otherPunctuation => otherPunctuationCodes
  | .mathSymbol => mathSymbolCodes
  | .currencySymbol => currencySymbolCodes
  | .modifierSymbol => modifierSymbolCodes
  | .otherSymbol => otherSymbolCodes
  | .spaceSeparator => spaceSeparatorCodes
  | .lineSeparator => lineSeparatorCodes
  | .paragraphSeparator => paragraphSeparatorCodes
  | .control => controlCodes
  | .format => formatCodes
  | .privateUse => privateUseCodes
  | .surrogate => ⟨[(0xd800, 0xdfff)]⟩
  | .unassigned => ∅

def unassignedCodes : CodeSet :=
  CodeSet.diff .all (assigned.foldl (fun s k => s.union k.listed) ∅)

def codes : Category → CodeSet
  | .unassigned => unassignedCodes
  | k => k.listed

def codesOfAll (ks : List Category) : CodeSet :=
  ks.foldl (fun s k => s.union k.codes) ∅

/-- The categories that a name in lower case without separators stands for. -/
def named? : String → Option (List Category)
  | "lu" | "uppercaseletter" => some [.uppercaseLetter]
  | "ll" | "lowercaseletter" => some [.lowercaseLetter]
  | "lt" | "titlecaseletter" => some [.titlecaseLetter]
  | "lm" | "modifierletter" => some [.modifierLetter]
  | "lo" | "otherletter" => some [.otherLetter]
  | "mn" | "nonspacingmark" => some [.nonspacingMark]
  | "mc" | "spacingmark" => some [.spacingMark]
  | "me" | "enclosingmark" => some [.enclosingMark]
  | "nd" | "decimalnumber" | "digit" => some [.decimalNumber]
  | "nl" | "letternumber" => some [.letterNumber]
  | "no" | "othernumber" => some [.otherNumber]
  | "pc" | "connectorpunctuation" => some [.connectorPunctuation]
  | "pd" | "dashpunctuation" => some [.dashPunctuation]
  | "ps" | "openpunctuation" => some [.openPunctuation]
  | "pe" | "closepunctuation" => some [.closePunctuation]
  | "pi" | "initialpunctuation" => some [.initialPunctuation]
  | "pf" | "finalpunctuation" => some [.finalPunctuation]
  | "po" | "otherpunctuation" => some [.otherPunctuation]
  | "sm" | "mathsymbol" => some [.mathSymbol]
  | "sc" | "currencysymbol" => some [.currencySymbol]
  | "sk" | "modifiersymbol" => some [.modifierSymbol]
  | "so" | "othersymbol" => some [.otherSymbol]
  | "zs" | "spaceseparator" => some [.spaceSeparator]
  | "zl" | "lineseparator" => some [.lineSeparator]
  | "zp" | "paragraphseparator" => some [.paragraphSeparator]
  | "cc" | "control" | "cntrl" => some [.control]
  | "cf" | "format" => some [.format]
  | "co" | "privateuse" => some [.privateUse]
  | "cn" | "unassigned" => some [.unassigned]
  | "c" | "other" => some [.control, .format, .privateUse, .surrogate, .unassigned]
  | "l" | "letter" =>
    some [.uppercaseLetter, .lowercaseLetter, .titlecaseLetter, .modifierLetter, .otherLetter]
  | "m" | "mark" | "combiningmark" => some [.nonspacingMark, .spacingMark, .enclosingMark]
  | "n" | "number" => some [.decimalNumber, .letterNumber, .otherNumber]
  | "p" | "punctuation" | "punct" =>
    some [.connectorPunctuation, .dashPunctuation, .openPunctuation, .closePunctuation,
      .initialPunctuation, .finalPunctuation, .otherPunctuation]
  | "s" | "symbol" => some [.mathSymbol, .currencySymbol, .modifierSymbol, .otherSymbol]
  | "z" | "separator" => some [.spaceSeparator, .lineSeparator, .paragraphSeparator]
  | "lc" | "casedletter" => some [.uppercaseLetter, .lowercaseLetter, .titlecaseLetter]
  | _ => none

end Category

end CryptoSurvey.Text
