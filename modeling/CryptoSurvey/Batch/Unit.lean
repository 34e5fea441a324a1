import CryptoSurvey.Error
import CryptoSurvey.Report.Row

namespace CryptoSurvey

inductive UnitStatus where
  | completed
  | timedOut
  | skipped
  | failed
  deriving DecidableEq, Repr

def UnitStatus.name : UnitStatus → String
  | .completed => "completed"
  | .timedOut => "timed_out"
  | .skipped => "skipped"
  | .failed => "failed"

structure UnitOutcome where
  app : Path
  status : UnitStatus
  report? : Option Report
  reason? : Option String
  /-- In milliseconds. -/
  elapsed : Nat

namespace UnitOutcome

def ofResult (app : Path) (elapsed : Nat) : Except AnalysisError Report → UnitOutcome
  | .ok report => { app, status := .completed, report? := some report, reason? := none, elapsed }
  | .error e =>
    let status := match e with
      | .input _ => .skipped
      | .timeout _ => .timedOut
      | .unexpected _ => .failed
    { app, status, report? := none, reason? := some e.message, elapsed }

def appName (o : UnitOutcome) : String :=
  o.app.displayName

end UnitOutcome

structure SummaryRow where
  app : String
  package? : Option String := none
  status : UnitStatus
  reason? : Option String
  classesScanned : Nat := 0
  methodsScanned : Nat := 0
  librariesScanned : Nat := 0
  librariesSkipped : Nat := 0
  packers : List String := []
  elapsed : Nat
  deriving DecidableEq

namespace SummaryRow

/-- The row of an outcome; without a report nothing was scanned. -/
def ofOutcome (o : UnitOutcome) : SummaryRow :=
  match o.report? with
  | none => { app := o.appName, status := o.status, reason? := o.reason?, elapsed := o.elapsed }
  | some r =>
    { app := o.appName
      package? := r.identity.package?
      status := o.status
      reason? := o.reason?
      classesScanned := r.counters.classesScanned
      methodsScanned := r.counters.methodsScanned
      librariesScanned := r.counters.librariesScanned
      librariesSkipped := r.skippedLibraries.length
      packers := r.packers
      elapsed := o.elapsed }

def toJson (r : SummaryRow) : Json :=
  .ofMembers
    [("app", some (.text r.app)),
     ("package", r.package?.map .text),
     ("status", some (.text r.status.name)),
     ("reason", r.reason?.map .text),
     ("classes_scanned", some (.integer r.classesScanned)),
     ("methods_scanned", some (.integer r.methodsScanned)),
     ("libraries_scanned", some (.integer r.librariesScanned)),
     ("libraries_skipped", some (.integer r.librariesSkipped)),
     ("packers", some (.ofTexts r.packers)),
     ("elapsed_ms", some (.integer r.elapsed))]

end SummaryRow

end CryptoSurvey
