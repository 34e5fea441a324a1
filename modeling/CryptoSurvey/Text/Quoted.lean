import CryptoSurvey.Text.Printable

namespace CryptoSurvey.Text

def escapeCode (c : Char) : String :=
  "\\u\x7b" ++ String.ofList (Nat.toDigits 16 c.toNat) ++ "\x7d"

def escapeBetween (quote c : Char) : String :=
  if c == '\x00' then "\\0"
  else if c == '\t' then "\\t"
  else if c == '\r' then "\\r"
  else if c == '\n' then "\\n"
  else if c == '\\' || c == quote then String.ofList ['\\', c]
  else if isPrintable c then c.toString
  else escapeCode c

def quoteChar (c : Char) : String :=
  "'" ++ escapeBetween '\'' c ++ "'"

def quoteText (s : String) : String :=
  "\"" ++ String.join (s.toList.map (escapeBetween '"')) ++ "\""

end CryptoSurvey.Text
