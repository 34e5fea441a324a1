import CryptoSurvey.Archive.Basic
import CryptoSurvey.Library

namespace CryptoSurvey

inductive Rejection where
  | unreadable (fault : EntryFault)
  | declaredTooLarge (size limit : Nat)
  | tooLarge (limit : Nat)
  | broken (fault : ContentsFault)
  deriving DecidableEq, Repr

def Rejection.message : Rejection → String
  | .unreadable fault => s!"unreadable archive entry: {fault.message}"
  | .declaredTooLarge size limit => s!"library size {size} exceeds limit of {limit} bytes"
  | .tooLarge limit => s!"library exceeds limit of {limit} bytes"
  | .broken fault => s!"failed to extract: {fault.message}"

inductive ExtractionFault where
  | capacityOverflow
  deriving DecidableEq, Repr

def ExtractionFault.message : ExtractionFault → String
  | .capacityOverflow => "capacity overflow"

/-- The libraries of an archive, and those that could not be extracted. -/
structure Extraction where
  libraries : List Library := []
  rejected : List RejectedLibrary := []

/-- The limit on the size of a library unless another one is given. -/
def defaultMaxLibrarySize : Nat := 256 * 1024 * 1024

/-- The whole contents, if they are no longer than the limit. A fault counts only if it comes before
the limit is passed. -/
def Contents.readUpTo (limit : Nat) (c : Contents) : Except Rejection ByteArray :=
  if limit < c.bytes.length then .error (.tooLarge limit)
  else match c.fault? with
    | some fault => .error (.broken fault)
    | none => .ok ⟨c.bytes.toArray⟩

/-- Extracts an entry. A buffer of the declared size is set aside before the contents are read. -/
def Entry.extract (limit : Nat) (e : Entry) :
    Except ExtractionFault (Except Rejection ByteArray) :=
  match e.packed with
  | .error fault => .ok (.error (.unreadable fault))
  | .ok p =>
    if limit < e.size then .ok (.error (.declaredTooLarge e.size limit))
    else if bufferLimit ≤ e.size then .error .capacityOverflow
    else .ok (p.contents.readUpTo limit)

namespace Archive

def nativeEntries (a : Archive) : List Entry :=
  a.entries.filter fun e => isNativeLibrary e.name

def extract (limit : Nat) (a : Archive) : Except ExtractionFault Extraction := do
  let outcomes ← a.nativeEntries.mapM fun e => do return (e.name, ← e.extract limit)
  return {
    libraries := outcomes.filterMap fun (path, outcome) =>
      match outcome with
      | .ok data => some { path, data }
      | .error _ => none
    rejected := outcomes.filterMap fun (path, outcome) =>
      match outcome with
      | .ok _ => none
      | .error rejection => some { path, reason := rejection.message } }

end Archive

end CryptoSurvey
