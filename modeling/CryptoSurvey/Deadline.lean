import CryptoSurvey.Error

namespace CryptoSurvey

/-- The milliseconds that have passed at each look at the clock. -/
abbrev Clock := Nat → Nat

/-- A budget in milliseconds, or none. -/
structure Deadline where
  budget? : Option Nat
  deriving DecidableEq

namespace Deadline

def unlimited : Deadline := ⟨none⟩

def ofSeconds (seconds : Nat) : Deadline := ⟨some (1000 * seconds)⟩

/-- The budget of an application unless another one is given. -/
def standard : Deadline := ofSeconds 600

def isExpired (d : Deadline) (elapsed : Nat) : Bool :=
  d.budget?.any (· < elapsed)

def remaining? (d : Deadline) (elapsed : Nat) : Option Nat :=
  d.budget?.map (· - elapsed)

def check (d : Deadline) (elapsed : Nat) : Except AnalysisError Unit :=
  match d.budget? with
  | some budget => if budget < elapsed then .error (.timeout budget) else .ok ()
  | none => .ok ()

end Deadline

end CryptoSurvey
