import CryptoSurvey.Batch.Run
import CryptoSurvey.CommandLine.Selection
import CryptoSurvey.Rules.Bundled

namespace CryptoSurvey

inductive ProgramError where
  | invalidArguments (cause : SelectionError)
  | noOutputDirectory (path : Path) (cause : OsError)
  | noLog (cause : OutputError)
  | rules (cause : RulesError)
  | noApps (cause : SelectionError)
  | noOutputs (cause : OutputError)
  deriving DecidableEq

namespace ProgramError

def context : ProgramError → String
  | .invalidArguments _ => "Invalid arguments"
  | .noOutputDirectory path _ => s!"Cannot create output directory: {path.text}"
  | .noLog _ => "Cannot open log file"
  | .rules _ => "Cannot load rules"
  | .noApps cause => cause.message
  | .noOutputs _ => "Cannot create output files"

/-- The causes of a failure to write: the file, and what the system reported. -/
def outputCauses : OutputError → List String
  | .unwritable path reason => [(OutputError.unwritable path reason).message, reason]
  | .unserializable path reason => [(OutputError.unserializable path reason).message]

def causes : ProgramError → List String
  | .invalidArguments cause => [cause.message]
  | .noOutputDirectory _ cause => [cause.message]
  | .noLog cause => outputCauses cause
  | .rules cause => [cause.message]
  | .noApps _ => []
  | .noOutputs cause => outputCauses cause

def indented (first next text : String) : String :=
  first ++ ("\n" ++ next).intercalate (text.splitOn "\n")

/-- The causes as they are listed; several are numbered. -/
def listed : List String → String
  | [] => ""
  | [cause] => "\n\nCaused by:\n" ++ indented "    " "    " cause
  | causes =>
    "\n\nCaused by:\n" ++ "\n".intercalate (causes.zipIdx.map fun (cause, i) =>
      indented s!"    {i}: " "       " cause)

def message (e : ProgramError) : String :=
  "Error: " ++ e.context ++ listed e.causes

end ProgramError

def logFileName : String := "analyse.log"

namespace Program

/-- Steps that change files and may fail; what was changed before a failure stays. -/
abbrev Action := ExceptT ProgramError (StateM FileTree)

def attempt {ε α : Type} (wrap : ε → ProgramError) : Except ε α → Action α
  | .ok a => pure a
  | .error e => throw (wrap e)

def openLog (output : Path) : Action TreePath := do
  set (← attempt (.noOutputDirectory output) ((← get).createDirectories output))
  let path := output.join ⟨logFileName⟩
  let (place, tree) ← attempt (fun e => .noLog (.unwritable path e.message))
    ((← get).createFile path)
  set tree
  return place

def loadRules : Option Path → Action RuleSet
  | none => pure .bundled
  | some path => do
    let (rules, result) := RuleSet.bundled.load path ((← get).read path)
    attempt .rules result
    return rules

def createOutputs (directory : Path) (withManaged : Bool) : Action Outputs := fun tree =>
  let (result, tree) := Outputs.create directory withManaged tree
  (result.mapError .noOutputs, tree)

def tell (log : TreePath) (notices : List Notice) (tree : FileTree) : FileTree :=
  tree.append log (String.join (notices.map fun n => n.line ++ "\n")).toUTF8

structure Job where
  rules : RuleSet
  options : SurveyOptions
  outputs : Outputs
  log : TreePath
  apps : List Path

/-- Checks the arguments and opens every file. Without applications there is nothing to do. -/
def prepare (a : Arguments) : Action (Option Job) := do
  attempt .invalidArguments (a.validate (← get))
  let log ← openLog a.output
  let rules ← loadRules a.rules?
  let apps ← attempt .noApps (a.collect (← get))
  if apps.isEmpty then return none
  let outputs ← createOutputs a.output (!a.nativeOnly)
  return some { rules, options := a.options, outputs, log, apps }

def Job.record (job : Job) (outcome : UnitOutcome) (notices : List Notice) (tree : FileTree) :
    FileTree :=
  tell job.log notices (Batch.write job.rules.registry job.outputs [outcome] tree)

def Job.step (job : Job) (clocks : Clocks) (tree : FileTree) (app : Path) : FileTree :=
  job.record (Batch.unit job.rules job.options clocks tree app)
    (Batch.notices job.rules job.options clocks tree app) tree

def execute (a : Arguments) (clocks : Clocks) : Action Unit := do
  if let some job ← prepare a then
    modify fun tree => job.apps.foldl (job.step clocks) tree

inductive Ending where
  | done
  | refused (error : ArgumentError)
  | failed (error : ProgramError)

def Ending.code : Ending → UInt8
  | .done => 0
  | .refused .help => 0
  | .refused _ => 2
  | .failed _ => 1

def run (arguments : List String) (clocks : Clocks) (tree : FileTree) : Ending × FileTree :=
  match Arguments.parse arguments with
  | .error e => (.refused e, tree)
  | .ok a =>
    match execute a clocks tree with
    | (.ok (), tree) => (.done, tree)
    | (.error e, tree) => (.failed e, tree)

end Program

end CryptoSurvey
