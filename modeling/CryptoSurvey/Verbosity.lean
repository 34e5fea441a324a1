namespace CryptoSurvey

inductive Verbosity where
  | quiet
  | normal
  | verbose
  | debug
  | trace
  deriving DecidableEq, Repr

namespace Verbosity

/-- The level that the flags ask for; quietness wins. -/
def ofFlags (verbose : Nat) (quiet : Bool) : Verbosity :=
  if quiet then .quiet
  else match verbose with
    | 0 => .normal
    | 1 => .verbose
    | 2 => .debug
    | _ => .trace

def all : List Verbosity := [.quiet, .normal, .verbose, .debug, .trace]

end Verbosity

end CryptoSurvey
