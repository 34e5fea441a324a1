import CryptoSurvey.Batch.Unit
import CryptoSurvey.FileTree

namespace CryptoSurvey

def linesOf (rows : List Json) : String :=
  String.join (rows.map fun row => row.render ++ "\n")

structure LineFile where
  path : Path
  place : TreePath

namespace LineFile

def create (tree : FileTree) (path : Path) : Except OutputError (LineFile × FileTree) :=
  match tree.createFile path with
  | .ok (place, tree) => .ok ({ path, place }, tree)
  | .error e => .error (.unwritable path e.message)

def write (f : LineFile) (rows : List Json) (tree : FileTree) : FileTree :=
  if rows.isEmpty then tree else tree.append f.place (linesOf rows).toUTF8

end LineFile

inductive RowKind where
  | managed
  | native
  | summary
  deriving DecidableEq, Repr

def RowKind.fileName : RowKind → String
  | .managed => "managed.jsonl"
  | .native => "native.jsonl"
  | .summary => "summary.jsonl"

structure Block where
  kind : RowKind
  rows : List Json

/-- The blocks of an outcome in the order in which they are written. Only a report has detail rows, and
a block without rows is not written. -/
def UnitOutcome.blocks (registry : Registry) (o : UnitOutcome) : List Block :=
  let details := match o.report? with
    | none => []
    | some report =>
      [⟨.managed, (report.managedRows registry).map ManagedRow.toJson⟩,
       ⟨.native, (report.nativeRows registry).map NativeRow.toJson⟩]
  (details ++ [⟨.summary, [(SummaryRow.ofOutcome o).toJson]⟩]).filter fun b => !b.rows.isEmpty

/-- The files of a batch. Without managed analysis there are no managed rows. -/
structure Outputs where
  managed? : Option LineFile
  native : LineFile
  summary : LineFile

namespace Outputs

/-- Creates a file of the given kind in a directory; the tree keeps what was created before a
failure. -/
def createFile (directory : Path) (kind : RowKind) :
    ExceptT OutputError (StateM FileTree) LineFile := fun tree =>
  match LineFile.create tree (directory.join ⟨kind.fileName⟩) with
  | .ok (file, tree) => (.ok file, tree)
  | .error e => (.error e, tree)

def create (directory : Path) (withManaged : Bool) : ExceptT OutputError (StateM FileTree) Outputs := do
  let managed? ← if withManaged then pure (some (← createFile directory .managed)) else pure none
  let native ← createFile directory .native
  let summary ← createFile directory .summary
  return { managed?, native, summary }

def file? (o : Outputs) : RowKind → Option LineFile
  | .managed => o.managed?
  | .native => some o.native
  | .summary => some o.summary

def write (o : Outputs) (tree : FileTree) (b : Block) : FileTree :=
  match o.file? b.kind with
  | some f => f.write b.rows tree
  | none => tree

end Outputs

end CryptoSurvey
