import CryptoSurvey.Batch.Run

namespace CryptoSurvey

namespace Tally

/-- The number of applications that ended in a given way. -/
def count (t : Tally) : UnitStatus → Nat
  | .completed => t.completed
  | .timedOut => t.timedOut
  | .skipped => t.skipped
  | .failed => t.failed

variable {t u : Tally} {status : UnitStatus}

end Tally

namespace Batch

namespace Reduction

end Reduction

end Batch

end CryptoSurvey
