import CryptoSurvey.Archive.Directory
import CryptoSurvey.Archive.Inflate

namespace CryptoSurvey

inductive EntryFault where
  | encrypted
  | cutShort
  | noLocalHeader
  | unsupportedPacking
  | wrongPassword
  deriving DecidableEq, Repr

def EntryFault.message : EntryFault → String
  | .encrypted => "unsupported Zip archive: Password required to decrypt file"
  | .cutShort => "i/o error"
  | .noLocalHeader => "invalid Zip archive: Invalid local file header"
  | .unsupportedPacking => "unsupported Zip archive: Compression method not supported"
  | .wrongPassword => "provided password is incorrect"

inductive ContentsFault where
  | deflate (fault : DeflateFault)
  | foreign (message : String)
  | checksum
  | outOfMemory
  deriving DecidableEq, Repr

def ContentsFault.message : ContentsFault → String
  | .deflate .incomplete => "incomplete deflate stream"
  | .deflate .corrupt => "corrupt deflate stream"
  | .foreign message => message
  | .checksum => "Invalid checksum"
  | .outOfMemory => "out of memory"

/-- What unpacks contents that are neither stored nor deflated: the bytes that come, and the message of
the fault that ends them. Nothing is assumed of it. -/
def Unpackers := Directory.ForeignPacking → List UInt8 → Stream String

/-- Only stored and deflated contents are unpacked; all others break off at once. -/
def Unpackers.none : Unpackers :=
  fun _ _ => { bytes := [], fault? := some "no unpacker" }

structure Packed where
  unpack : List UInt8 → Stream ContentsFault
  bytes : ByteArray
  checksum : UInt32

namespace Packed

def unpackStored (bytes : List UInt8) : Stream ContentsFault :=
  { bytes }

def unpackDeflated (bytes : List UInt8) : Stream ContentsFault :=
  let expanded := Inflate.expand bytes
  { bytes := expanded.bytes, fault? := expanded.fault?.map .deflate }

def unpackForeign (unpackers : Unpackers) (packing : Directory.ForeignPacking)
    (bytes : List UInt8) : Stream ContentsFault :=
  let unpacked := unpackers packing bytes
  { bytes := unpacked.bytes, fault? := unpacked.fault?.map .foreign }

end Packed

/-- An entry. The size is the one that the archive declares for the contents. -/
structure Entry where
  name : String
  size : Nat
  packed : Except EntryFault Packed

/-- No buffer has this many bytes. -/
def bufferLimit : Nat := 0x8000000000000000

/-- Contents as they are read into a buffer: the bytes that come, and the fault that ends them. -/
structure Contents where
  bytes : List UInt8
  fault? : Option ContentsFault
  fits : bytes.length < bufferLimit

/-- The contents of an entry. The checksum is compared once all of them are there; contents for which
no buffer is long enough break off before. -/
def Packed.contents (p : Packed) : Contents :=
  let unpacked := p.unpack p.bytes.data.toList
  if h : unpacked.bytes.length < bufferLimit then
    { bytes := unpacked.bytes
      fault? := match unpacked.fault? with
        | some fault => some fault
        | none => if Checksum.ofBytes unpacked.bytes == p.checksum then none else some .checksum
      fits := h }
  else
    { bytes := unpacked.bytes.take (bufferLimit - 1)
      fault? := some .outOfMemory
      fits := Nat.lt_of_le_of_lt (List.length_take_le _ _) (by decide) }

end CryptoSurvey
