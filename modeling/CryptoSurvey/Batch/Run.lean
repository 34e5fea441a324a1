import CryptoSurvey.Batch.Output
import CryptoSurvey.Survey.Application

namespace CryptoSurvey

structure Tally where
  completed : Nat := 0
  timedOut : Nat := 0
  skipped : Nat := 0
  failed : Nat := 0
  deriving DecidableEq, Repr

namespace Tally

def record (t : Tally) : UnitStatus → Tally
  | .completed => { t with completed := t.completed + 1 }
  | .timedOut => { t with timedOut := t.timedOut + 1 }
  | .skipped => { t with skipped := t.skipped + 1 }
  | .failed => { t with failed := t.failed + 1 }

def total (t : Tally) : Nat :=
  t.completed + t.timedOut + t.skipped + t.failed

end Tally

namespace Batch

def unit (rules : RuleSet) (options : SurveyOptions) (clocks : Clocks) (tree : FileTree)
    (app : Path) : UnitOutcome :=
  .ofResult app clocks.finish (Application.survey rules tree options clocks app)

def ending (app : Path) : Except AnalysisError Report → List Notice
  | .ok _ => []
  | .error (.input e) => [.appSkipped app e]
  | .error (.timeout budget) => [.appTimedOut app (.timeout budget)]
  | .error (.unexpected reason) => [.appFailed app (.unexpected reason)]

def notices (rules : RuleSet) (options : SurveyOptions) (clocks : Clocks) (tree : FileTree)
    (app : Path) : List Notice :=
  Application.notices rules tree options clocks app ++
    ending app (Application.survey rules tree options clocks app)

def outcomes (rules : RuleSet) (options : SurveyOptions) (clocks : Clocks) (tree : FileTree)
    (apps : List Path) : List UnitOutcome :=
  apps.map (unit rules options clocks tree)

def write (registry : Registry) (outputs : Outputs) (os : List UnitOutcome) (tree : FileTree) :
    FileTree :=
  (os.flatMap (·.blocks registry)).foldl outputs.write tree

end Batch

end CryptoSurvey
