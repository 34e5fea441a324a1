import CryptoSurvey.Error

namespace CryptoSurvey

inductive Severity where
  | warning
  | error
  deriving DecidableEq, Repr

inductive Notice where
  | libraryIgnored (path reason : String)
  | noDecompiledCode (app sidecar : Path)
  | deadlineExceeded
  | appSkipped (app : Path) (error : InputError)
  | appTimedOut (app : Path) (error : AnalysisError)
  | appFailed (app : Path) (error : AnalysisError)
  | resultsLost (app : Path) (error : OutputError)
  deriving DecidableEq

namespace Notice

def severity : Notice → Severity
  | .libraryIgnored .. | .noDecompiledCode .. | .appSkipped .. => .warning
  | .deadlineExceeded | .appTimedOut .. | .appFailed .. | .resultsLost .. => .error

def message : Notice → String
  | .libraryIgnored path reason => s!"ignoring library: {path}: {reason}"
  | .noDecompiledCode app sidecar =>
    s!"no decompiled code found, running native analysis only: {app.text}: {sidecar.text}"
  | .deadlineExceeded => "deadline exceeded"
  | .appSkipped app error => s!"skipping application: {app.text}: {error.message}"
  | .appTimedOut app error => s!"application timed out: {app.text}: {error.message}"
  | .appFailed app error => s!"application failed: {app.text}: {error.message}"
  | .resultsLost app error => s!"failed to write results: {app.text}: {error.message}"

def line (n : Notice) : String :=
  match n.severity with
  | .warning => s!" WARN {n.message}"
  | .error => s!"ERROR {n.message}"

end Notice

end CryptoSurvey
