import CryptoSurvey.Archive.Extraction
import CryptoSurvey.FileTree
import CryptoSurvey.Notice
import CryptoSurvey.Package.Document
import CryptoSurvey.Report.Assembly
import CryptoSurvey.Survey.Managed
import CryptoSurvey.Survey.Native

namespace CryptoSurvey

structure SurveyOptions where
  /-- The budget of each application. -/
  deadline : Deadline := .standard
  /-- Decompiled code is not looked at. -/
  nativeOnly : Bool := false
  /-- Whole library files are searched for constants as well. -/
  rawSearch : Bool := false
  maxLibrarySize : Nat := defaultMaxLibrarySize
  /-- The directory of the documents with decompiled code, unless they stand beside the archives. -/
  classesDirectory? : Option Path := none
  unpackers : Unpackers := .none

/-- What an analysis finds when it looks at the clock: during each of the two passes, which run side
by side, and at the end. -/
structure Clocks where
  managed : Clock
  native : Clock
  finish : Nat

def Clocks.stopped : Clocks := ⟨fun _ => 0, fun _ => 0, 0⟩

namespace Application

def managedPass (rules : RuleSet) (d : Deadline) (clock : Clock) :
    Option Package → Except AnalysisError ManagedPass
  | none => .ok {}
  | some package =>
    Managed.survey rules.registry (.ofRegistry rules.registry rules.exclusions) d clock
      package.classes package.strings

def nativePass (rules : RuleSet) (d : Deadline) (clock : Clock) (libraries : List Library) :
    Except AnalysisError NativePass :=
  Native.survey rules (.ofRegistry rules.registry rules.exclusions) d clock libraries

def surveyInputs (rules : RuleSet) (identity : Identity) (package? : Option Package)
    (libraries : List Library) (rejected : List SkippedLibrary) (d : Deadline) (clocks : Clocks) :
    Except AnalysisError Report := do
  let managed ← managedPass rules d clocks.managed package?
  let native ← nativePass rules d clocks.native libraries
  return .assemble rules.registry identity [managed] (native.withSkipped rejected) clocks.finish

/-- The document with the decompiled code of an application, if there is one. -/
def readSidecar (tree : FileTree) (options : SurveyOptions) (app : Path) :
    Except InputError (Option Package) :=
  let path := sidecarPath app options.classesDirectory?
  if options.nativeOnly || !tree.isFile path then .ok none
  else
    let contents := do
      match Text.decode? (← tree.read path) with
      | some text => .ok text
      | none => .error OsError.notUtf8
    match contents with
    | .error e => .error (.badDecompiledCode path.text e.message)
    | .ok text => (Package.read text path).map some

structure Inputs where
  identity : Identity
  package? : Option Package
  libraries : List Library
  rejected : List SkippedLibrary

def extract (tree : FileTree) (options : SurveyOptions) (app : Path) :
    Except AnalysisError Extraction :=
  match Archive.load app (tree.read app) options.unpackers with
  | .error e => .error (.input e)
  | .ok archive =>
    match archive.extract options.maxLibrarySize with
    | .error fault => .error (.unexpected fault.message)
    | .ok extraction => .ok extraction

def inputs (rules : RuleSet) (tree : FileTree) (options : SurveyOptions) (app : Path) :
    Except AnalysisError Inputs := do
  let extraction ← extract tree options app
  let package? ← match readSidecar tree options app with
    | .error e => .error (AnalysisError.input e)
    | .ok package? => .ok package?
  return {
    identity := { fileName := app.displayName, package? := package?.bind (·.name?) }
    package?
    libraries := extraction.libraries
    rejected := extraction.rejected.map fun r => Native.skipped rules.packers r.path r.reason }

def survey (rules : RuleSet) (tree : FileTree) (options : SurveyOptions) (clocks : Clocks)
    (app : Path) : Except AnalysisError Report := do
  let i ← inputs rules tree options app
  surveyInputs rules i.identity i.package? i.libraries i.rejected options.deadline clocks

/-- The libraries that the native pass examines before its budget is spent. -/
def examinedLibraries (d : Deadline) (clock : Clock) (libraries : List Library) : List Library :=
  (libraries.zipIdx.takeWhile fun (_, i) => !d.isExpired (clock i)).map (·.1)

def notices (rules : RuleSet) (tree : FileTree) (options : SurveyOptions) (clocks : Clocks)
    (app : Path) : List Notice :=
  match extract tree options app with
  | .error _ => []
  | .ok extraction =>
    let sidecar := sidecarPath app options.classesDirectory?
    let rejected := extraction.rejected.map fun r => .libraryIgnored r.path r.reason
    let missing := if options.nativeOnly || tree.isFile sidecar then []
      else [.noDecompiledCode app sidecar]
    let passes : List Notice :=
      match inputs rules tree options app with
      | .error _ => []
      | .ok i =>
        let matcher := Matcher.ofRegistry rules.registry rules.exclusions
        let unreadable := (examinedLibraries options.deadline clocks.native i.libraries).filterMap
          fun l => match Native.examine rules matcher l with
            | .error s => some (.libraryIgnored s.path s.reason)
            | .ok _ => none
        let expired {α : Type} (pass : Except AnalysisError α) : List Notice :=
          if pass.toOption.isNone then [.deadlineExceeded] else []
        expired (managedPass rules options.deadline clocks.managed i.package?) ++ unreadable ++
          expired (nativePass rules options.deadline clocks.native i.libraries)
    rejected ++ missing ++ passes

end Application

end CryptoSurvey
