import CryptoSurvey.Path

namespace CryptoSurvey

inductive OsError where
  | notFound
  | alreadyExists
  | notDirectory
  | isDirectory
  | nameTooLong
  | nulInName
  | notUtf8
  deriving DecidableEq, Repr

def OsError.message : OsError → String
  | .notFound => "No such file or directory (os error 2)"
  | .alreadyExists => "File exists (os error 17)"
  | .notDirectory => "Not a directory (os error 20)"
  | .isDirectory => "Is a directory (os error 21)"
  | .nameTooLong => "File name too long (os error 36)"
  | .nulInName => "file name contained an unexpected NUL byte"
  | .notUtf8 => "stream did not contain valid UTF-8"

inductive RulesError where
  | unreadable (path : Path) (reason : String)
  | malformed (path : Path) (reason : String)
  | unsupportedFormat (extension : String)
  | invalidConstant (constant reason : String)
  | invalidPattern (pattern reason : String)
  | invalidRegistry (reason : String)
  deriving DecidableEq

def RulesError.message : RulesError → String
  | .unreadable path reason => s!"failed to read rules file '{path.text}': {reason}"
  | .malformed path reason => s!"failed to parse rules file '{path.text}': {reason}"
  | .unsupportedFormat extension =>
    s!"unsupported rules format: {extension} (expected json or yaml)"
  | .invalidConstant constant reason => s!"invalid hex in constant '{constant}': {reason}"
  | .invalidPattern pattern reason => s!"invalid packer pattern '{pattern}': {reason}"
  | .invalidRegistry reason => s!"invalid registry: {reason}"

inductive InputError where
  | badArchive (path : Path) (reason : String)
  | badBinary (name format reason : String)
  | badDecompiledCode (origin reason : String)
  deriving DecidableEq

def InputError.message : InputError → String
  | .badArchive path reason => s!"not an application archive: {path.text}: {reason}"
  | .badBinary name format reason => s!"not a valid {format} binary: {name}: {reason}"
  | .badDecompiledCode origin reason =>
    s!"invalid decompiled code document '{origin}': {reason}"

/-- An analysis that did not finish. Budgets are in milliseconds. -/
inductive AnalysisError where
  | input (error : InputError)
  | timeout (budget : Nat)
  | unexpected (reason : String)
  deriving DecidableEq

def AnalysisError.message : AnalysisError → String
  | .input error => error.message
  | .timeout budget => s!"analysis exceeded its deadline of {budget / 1000}s"
  | .unexpected reason => s!"unexpected analysis failure: {reason}"

inductive OutputError where
  | unwritable (path : Path) (reason : String)
  | unserializable (path : Path) (reason : String)
  deriving DecidableEq

def OutputError.message : OutputError → String
  | .unwritable path reason => s!"failed to write file '{path.text}': {reason}"
  | .unserializable path reason => s!"failed to serialize record for '{path.text}': {reason}"

end CryptoSurvey
