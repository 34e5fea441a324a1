import CryptoSurvey.Archive.Directory
import CryptoSurvey.Archive.Entry
import CryptoSurvey.Error

namespace CryptoSurvey

structure Archive where
  entries : List Entry

namespace Archive

/-- Where the contents of an entry start: after the header in front of them, which has its own name
and extra fields. -/
def contentsStart (data : ByteArray) (start : Nat) : Except EntryFault Nat :=
  match Bytes.word? data .leastFirst (start + 26) 2, Bytes.word? data .leastFirst (start + 28) 2 with
  | some name, some extra =>
    if Directory.markAt data Directory.localMark start then .ok (start + 30 + name + extra)
    else .error .noLocalHeader
  | _, _ => .error .cutShort

/-- The packed contents that a header of the directory leads to. Contents that reach beyond the file
end with it. -/
def packed (unpackers : Unpackers) (data : ByteArray) (h : Directory.Header) :
    Except EntryFault Packed := do
  if h.encrypted then .error .encrypted
  let start ← contentsStart data h.start
  let bytes := data.extract start (start + h.packedSize)
  let checksum := h.checksum
  match h.method, h.strong with
  | .unsupported, _ => .error .unsupportedPacking
  | _, true => .error .wrongPassword
  | .stored, false => return { unpack := Packed.unpackStored, bytes, checksum }
  | .deflated, false => return { unpack := Packed.unpackDeflated, bytes, checksum }
  | .foreign packing, false =>
    return { unpack := Packed.unpackForeign unpackers packing, bytes, checksum }
  | .sealed, false => .error .unsupportedPacking

def entry (unpackers : Unpackers) (data : ByteArray) (h : Directory.Header) : Entry :=
  { name := h.name, size := h.size, packed := packed unpackers data h }

def put (e : Entry) : List Entry → List Entry
  | [] => [e]
  | f :: rest => if f.name == e.name then e :: rest else f :: put e rest

def ofBytes (unpackers : Unpackers) (data : ByteArray) : Except DirectoryFault Archive := do
  let headers ← Directory.read data
  return ⟨headers.foldl (fun entries h => put (entry unpackers data h) entries) []⟩

def load (path : Path) (contents : Except OsError ByteArray) (unpackers : Unpackers := .none) :
    Except InputError Archive :=
  let reject (reason : String) := Except.error (InputError.badArchive path reason)
  match contents with
  | .error .isDirectory => reject DirectoryFault.cutShort.message
  | .error e => reject e.message
  | .ok data =>
    match ofBytes unpackers data with
    | .error e => reject e.message
    | .ok a => .ok a

end Archive

end CryptoSurvey
