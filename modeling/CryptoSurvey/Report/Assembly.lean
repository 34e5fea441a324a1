import CryptoSurvey.Registry
import CryptoSurvey.Report.Record

namespace CryptoSurvey

structure Identity where
  fileName : String
  package? : Option String
  deriving DecidableEq, Inhabited

structure Counters where
  classesScanned : Nat
  methodsScanned : Nat
  librariesScanned : Nat
  /-- In milliseconds. -/
  elapsed : Nat
  deriving DecidableEq, Inhabited

structure Report where
  identity : Identity
  classes : List ClassRecord
  libraries : List LibraryRecord
  skippedLibraries : List SkippedLibrary
  counters : Counters
  deriving DecidableEq, Inhabited

/-- How evidence ranks: by kind, then by the priority of its algorithm, where one that is not
registered comes last, then by name. -/
structure Strength where
  rank : Nat
  priority? : Option Nat
  algorithm : String

namespace Strength

def of (registry : Registry) (e : Evidence) : Strength :=
  ⟨e.rank, registry.priority? e.algorithm, e.algorithm⟩

def comparePriority : Option Nat → Option Nat → Ordering
  | some a, some b => compare a b
  | some _, none => .lt
  | none, some _ => .gt
  | none, none => .eq

def compare (a b : Strength) : Ordering :=
  (Ord.compare a.rank b.rank).then
    ((comparePriority a.priority? b.priority?).then (Ord.compare a.algorithm b.algorithm))

end Strength

/-- The first of the strongest items. -/
def strongest? (registry : Registry) : List Evidence → Option Evidence
  | [] => none
  | e :: rest =>
    match strongest? registry rest with
    | none => some e
    | some f =>
      if (Strength.of registry f).compare (Strength.of registry e) == .lt then some f else some e

/-- The algorithm of the strongest evidence. -/
def primaryAlgorithm? (registry : Registry) (es : List Evidence) : Option String :=
  (strongest? registry es).map (·.algorithm)

def ClassRecord.label (registry : Registry) (c : ClassRecord) : ClassRecord :=
  { c with
    methods := c.methods.map fun _ m =>
      { m with primary? := primaryAlgorithm? registry m.evidence.toList }
    primary? := primaryAlgorithm? registry c.allEvidence }

namespace Report

def mergeClasses (passes : List ManagedPass) : ClassTable :=
  passes.foldl (fun t p => p.classes.foldl ClassTable.take t) ∅

/-- Merges the passes, drops what carries no evidence and labels the rest. -/
def assemble (registry : Registry) (identity : Identity) (passes : List ManagedPass)
    (native : NativePass) (elapsed : Nat) : Report where
  identity := identity
  classes := (mergeClasses passes).values.filterMap fun c =>
    if c.prune.hasEvidence then some (c.prune.label registry) else none
  libraries := native.libraries
  skippedLibraries := native.skipped
  counters :=
    { classesScanned := passes.foldl (fun n p => n + p.classesScanned) 0
      methodsScanned := passes.foldl (fun n p => n + p.methodsScanned) 0
      librariesScanned := native.librariesScanned
      elapsed := elapsed }

def class? (r : Report) (name : String) : Option ClassRecord :=
  r.classes.find? (·.name == name)

def library? (r : Report) (name : String) : Option LibraryRecord :=
  r.libraries.find? (·.name == name)

def packers (r : Report) : List String :=
  (OrderedSet.ofList (((r.libraries.filter (·.packer)).map (·.name)) ++
    ((r.skippedLibraries.filter (·.packer)).map (·.name)))).toList

end Report

end CryptoSurvey
