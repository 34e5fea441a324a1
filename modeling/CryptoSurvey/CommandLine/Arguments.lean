import CryptoSurvey.Survey.Application
import CryptoSurvey.Verbosity

namespace CryptoSurvey

inductive ArgumentError where
  | help
  | unknown
  | missingApps
  | missingValue
  | emptyValue
  | invalidNumber
  | repeated
  | unexpectedValue
  deriving DecidableEq, Repr

structure Arguments where
  apps : List Path
  output : Path
  rules? : Option Path
  classesDirectory? : Option Path
  nativeOnly : Bool
  /-- In seconds; zero stands for no limit. -/
  timeout : Nat
  jobs? : Option Nat
  maxLibrarySize : Nat
  rawSearch : Bool
  verbose : Nat
  quiet : Bool

inductive Parameter where
  | apps
  | output
  | rules
  | classesDirectory
  | nativeOnly
  | timeout
  | jobs
  | maxLibrarySize
  | rawSearch
  | verbose
  | quiet
  | help
  deriving DecidableEq, Repr

namespace Parameter

def ofLong? : String → Option Parameter
  | "output" => some .output
  | "rules" => some .rules
  | "classes-dir" => some .classesDirectory
  | "native-only" => some .nativeOnly
  | "timeout" => some .timeout
  | "jobs" => some .jobs
  | "max-library-size" => some .maxLibrarySize
  | "raw-search" => some .rawSearch
  | "verbose" => some .verbose
  | "quiet" => some .quiet
  | "help" => some .help
  | _ => none

def ofShort? : Char → Option Parameter
  | 'o' => some .output
  | 'j' => some .jobs
  | 'v' => some .verbose
  | 'q' => some .quiet
  | 'h' => some .help
  | _ => none

def takesValue : Parameter → Bool
  | .apps | .output | .rules | .classesDirectory | .timeout | .jobs | .maxLibrarySize => true
  | .nativeOnly | .rawSearch | .verbose | .quiet | .help => false

end Parameter

structure Given where
  apps : List Path := []
  output? : Option Path := none
  rules? : Option Path := none
  classesDirectory? : Option Path := none
  nativeOnly : Bool := false
  timeout? : Option Nat := none
  jobs? : Option Nat := none
  maxLibrarySize? : Option Nat := none
  rawSearch : Bool := false
  verbose : Nat := 0
  quiet : Bool := false

namespace Given

def maxVerbose : Nat := 255

def path (value : String) : Except ArgumentError Path :=
  if value.isEmpty then .error .emptyValue else .ok ⟨value⟩

def number (value : String) : Except ArgumentError Nat :=
  let digits := match value.toList with
    | '+' :: rest => rest
    | cs => cs
  let n := digits.foldl (fun n c => 10 * n + (c.toNat - '0'.toNat)) 0
  if digits.isEmpty || !digits.all Char.isDigit || wordLimit ≤ n then .error .invalidNumber else .ok n

def single {α : Type} (given? : Option α) (read : String → Except ArgumentError α) :
    List String → Except ArgumentError (Option α)
  | [] => .error .missingValue
  | value :: _ => if given?.isSome then .error .repeated else (read value).map some

def once (given : Bool) : Except ArgumentError Bool :=
  if given then .error .repeated else .ok true

def take (g : Given) (p : Parameter) (values : List String) : Except ArgumentError Given :=
  match p with
  | .apps => do return { g with apps := g.apps ++ (← values.mapM path) }
  | .output => do return { g with output? := ← single g.output? path values }
  | .rules => do return { g with rules? := ← single g.rules? path values }
  | .classesDirectory => do
    return { g with classesDirectory? := ← single g.classesDirectory? path values }
  | .timeout => do return { g with timeout? := ← single g.timeout? number values }
  | .jobs => do return { g with jobs? := ← single g.jobs? number values }
  | .maxLibrarySize => do
    return { g with maxLibrarySize? := ← single g.maxLibrarySize? number values }
  | .nativeOnly => do return { g with nativeOnly := ← once g.nativeOnly }
  | .rawSearch => do return { g with rawSearch := ← once g.rawSearch }
  | .quiet => do return { g with quiet := ← once g.quiet }
  | .verbose => .ok { g with verbose := min (g.verbose + 1) maxVerbose }
  | .help => .error .help

end Given

/-- The state between two arguments: a parameter whose values are not taken yet, and whether a double
dash ended the options. -/
structure Scan where
  given : Given := {}
  pending? : Option (Parameter × List String) := none
  optionsEnded : Bool := false

namespace Scan

def settle (s : Scan) : Except ArgumentError Scan :=
  match s.pending? with
  | none => .ok s
  | some (p, values) => do
    return { s with given := ← s.given.take p values, pending? := none }

def give (s : Scan) (p : Parameter) (values : List String) : Except ArgumentError Scan := do
  let s ← s.settle
  return { s with given := ← s.given.take p values }

def await (s : Scan) (p : Parameter) : Except ArgumentError Scan := do
  let s ← s.settle
  return { s with pending? := some (p, []) }

def long (s : Scan) (name : String) (value? : Option String) : Except ArgumentError Scan :=
  match Parameter.ofLong? name, value? with
  | none, _ => .error .unknown
  | some p, some value => if p.takesValue then s.give p [value] else .error .unexpectedValue
  | some p, none => if p.takesValue then s.await p else s.give p []

/-- Joined short options; the rest after one that takes a value is its value. -/
def short (s : Scan) : List Char → Except ArgumentError Scan
  | [] => .ok s
  | c :: rest =>
    match Parameter.ofShort? c with
    | none => .error .unknown
    | some p =>
      if p.takesValue then
        match rest with
        | [] => s.await p
        | '=' :: value => s.give p [String.ofList value]
        | value => s.give p [String.ofList value]
      else do
        let s ← s.give p []
        short s rest

def value (s : Scan) (v : String) : Except ArgumentError Scan :=
  match s.pending?, s.optionsEnded with
  | some (p, []), false => .ok { s with pending? := some (p, [v]) }
  | some (.apps, values), _ => .ok { s with pending? := some (.apps, values ++ [v]) }
  | _, _ => do
    let s ← s.settle
    return { s with pending? := some (.apps, [v]) }

def splitValue (cs : List Char) : String × Option String :=
  match cs.dropWhile (· != '=') with
  | [] => (String.ofList cs, none)
  | _ :: value => (String.ofList (cs.takeWhile (· != '=')), some (String.ofList value))

def next (s : Scan) (argument : String) : Except ArgumentError Scan :=
  if s.optionsEnded then s.value argument
  else match argument.toList with
    | ['-', '-'] => .ok { s with optionsEnded := true }
    | '-' :: '-' :: cs => s.long (splitValue cs).1 (splitValue cs).2
    | '-' :: c :: cs => s.short (c :: cs)
    | _ => s.value argument

end Scan

namespace Arguments

/-- The budget of an application in seconds unless another one is given. -/
def defaultTimeout : Nat := 600

def ofGiven (g : Given) : Except ArgumentError Arguments :=
  if g.apps.isEmpty then .error .missingApps
  else .ok
    { apps := g.apps
      output := g.output?.getD ⟨"."⟩
      rules? := g.rules?
      classesDirectory? := g.classesDirectory?
      nativeOnly := g.nativeOnly
      timeout := g.timeout?.getD defaultTimeout
      jobs? := g.jobs?
      maxLibrarySize := g.maxLibrarySize?.getD defaultMaxLibrarySize
      rawSearch := g.rawSearch
      verbose := g.verbose
      quiet := g.quiet }

def parse (arguments : List String) : Except ArgumentError Arguments := do
  let s ← arguments.foldlM Scan.next {}
  let s ← s.settle
  ofGiven s.given

def options (a : Arguments) : SurveyOptions where
  deadline := if a.timeout == 0 then .unlimited else .ofSeconds a.timeout
  nativeOnly := a.nativeOnly
  rawSearch := a.rawSearch
  maxLibrarySize := a.maxLibrarySize
  classesDirectory? := a.classesDirectory?

def verbosity (a : Arguments) : Verbosity :=
  .ofFlags a.verbose a.quiet

end Arguments

end CryptoSurvey
