import CryptoSurvey.Archive.Checksum
import CryptoSurvey.Archive.CodePage437
import CryptoSurvey.ByteOrder
import CryptoSurvey.Search
import CryptoSurvey.Text.Utf8

namespace CryptoSurvey

inductive DirectoryFault where
  | noEnd
  | cutShort
  | commentBeyondFile
  | offsetBeyondEnd
  | noHeader
  | wideOffsetBeyondLocator
  | severalDisks
  | noWideEnd
  | wideEndTooSmall
  | wideEndBeyondLocator
  | wideEndOnOtherDisk
  | wideEndLength
  | wideEndCount
  deriving DecidableEq, Repr

def DirectoryFault.message : DirectoryFault → String
  | .noEnd => "invalid Zip archive: Could not find EOCD"
  | .cutShort => "i/o error"
  | .commentBeyondFile => "invalid Zip archive: EOCD comment exceeds file boundary"
  | .offsetBeyondEnd => "invalid Zip archive: Invalid CDFH offset in EOCD"
  | .noHeader => "invalid Zip archive: No CDFH found"
  | .wideOffsetBeyondLocator => "invalid Zip archive: Invalid EOCD64 Locator CD offset"
  | .severalDisks => "invalid Zip archive: Multi-disk ZIP files are not supported"
  | .noWideEnd => "invalid Zip archive: Could not find EOCD64"
  | .wideEndTooSmall => "invalid Zip archive: Low EOCD64 record size"
  | .wideEndBeyondLocator => "invalid Zip archive: EOCD64 extends beyond EOCD64 locator"
  | .wideEndOnOtherDisk => "invalid Zip archive: Invalid EOCD64: inconsistency with Locator data"
  | .wideEndLength => "invalid Zip archive: Invalid EOCD64: inconsistent length"
  | .wideEndCount => "invalid Zip archive: Invalid EOCD64: inconsistent number of files"

namespace Directory

def headerMark : List UInt8 := [0x50, 0x4b, 1, 2]

def localMark : List UInt8 := [0x50, 0x4b, 3, 4]

def endMark : List UInt8 := [0x50, 0x4b, 5, 6]

def wideEndMark : List UInt8 := [0x50, 0x4b, 6, 6]

def locatorMark : List UInt8 := [0x50, 0x4b, 6, 7]

def escape32 : Nat := 0xffffffff

def markAt (data : ByteArray) (mark : List UInt8) (i : Nat) : Bool :=
  Bytes.slice? data i mark.length == some mark

def lastMark? (data : ByteArray) (mark : List UInt8) : Nat → Option Nat
  | 0 => none
  | stop + 1 =>
    if mark.length ≤ stop + 1 && markAt data mark (stop + 1 - mark.length) then
      some (stop + 1 - mark.length)
    else lastMark? data mark stop

def firstMark? (data : ByteArray) (mark : List UInt8) : Nat → Nat → Option Nat
  | 0, _ => none
  | count + 1, i => if markAt data mark i then some i else firstMark? data mark count (i + 1)

/-- The first position of a mark between `start` and `stop`, where it ends at the latest. -/
def markBetween? (data : ByteArray) (mark : List UInt8) (start stop : Nat) : Option Nat :=
  firstMark? data mark (stop + 1 - (start + mark.length)) start

def number (data : ByteArray) (offset width : Nat) : Except DirectoryFault Nat :=
  match Bytes.word? data .leastFirst offset width with
  | some n => .ok n
  | none => .error .cutShort

structure EndRecord where
  position : Nat
  disk : Nat
  directoryDisk : Nat
  countOnDisk : Nat
  count : Nat
  offset : Nat

def readEnd (data : ByteArray) (position : Nat) : Except DirectoryFault EndRecord := do
  let disk ← number data (position + 4) 2
  let directoryDisk ← number data (position + 6) 2
  let countOnDisk ← number data (position + 8) 2
  let count ← number data (position + 10) 2
  let offset ← number data (position + 16) 4
  let comment ← number data (position + 20) 2
  if data.size < position + 22 + comment then .error .commentBeyondFile
  return { position, disk, directoryDisk, countOnDisk, count, offset }

structure Locator where
  position : Nat
  disk : Nat
  offset : Nat
  disks : Nat

def readLocator? (data : ByteArray) (e : EndRecord) : Option Locator := do
  guard (e.count == 0xffff || e.offset == escape32)
  guard (20 ≤ e.position)
  let position := e.position - 20
  guard (markAt data locatorMark position)
  let disk ← Bytes.word? data .leastFirst (position + 4) 4
  let offset ← Bytes.word? data .leastFirst (position + 8) 8
  let disks ← Bytes.word? data .leastFirst (position + 16) 4
  return { position, disk, offset, disks }

structure WideEndRecord where
  versionMade : Nat
  versionNeeded : Nat
  disk : Nat
  directoryDisk : Nat
  countOnDisk : Nat
  count : Nat
  offset : Nat

/-- Reads a wide record, which fills the space up to the locator. -/
def readWideEnd (data : ByteArray) (l : Locator) (position : Nat) :
    Except DirectoryFault WideEndRecord := do
  let size ← number data (position + 4) 8
  let versionMade ← number data (position + 12) 2
  let versionNeeded ← number data (position + 14) 2
  let disk ← number data (position + 16) 4
  let directoryDisk ← number data (position + 20) 4
  let countOnDisk ← number data (position + 24) 8
  let count ← number data (position + 32) 8
  let offset ← number data (position + 48) 8
  if size < 44 then .error .wideEndTooSmall
  if l.position - position < size + 12 then .error .wideEndBeyondLocator
  if directoryDisk != l.disk then .error .wideEndOnOtherDisk
  if size + 12 != l.position - position then .error .wideEndLength
  if position < count * 46 + offset then .error .wideEndCount
  return { versionMade, versionNeeded, disk, directoryDisk, countOnDisk, count, offset }

/-- The first usable wide record among `count` positions from `position` on, or the last fault. -/
def findWideEnd (data : ByteArray) (l : Locator) :
    Nat → Nat → DirectoryFault → Except DirectoryFault (Nat × WideEndRecord)
  | 0, _, fault => .error fault
  | count + 1, position, fault =>
    if markAt data wideEndMark position then
      match readWideEnd data l position with
      | .ok e => .ok (position, e)
      | .error fault => findWideEnd data l count (position + 1) fault
    else findWideEnd data l count (position + 1) fault

/-- Where a directory stands and how many headers it has. `shift` is added to every position that the
archive records. -/
structure Place where
  start : Nat
  shift : Nat
  count : Nat

/-- What an end record leads to: its place, or `none` if the record rules itself out. -/
abbrev Lead := Option Place

def narrowLead (data : ByteArray) (e : EndRecord) : Except DirectoryFault Lead := do
  let place (shift : Nat) : Lead :=
    if e.disk == e.directoryDisk then
      some { start := e.offset + shift, shift, count := e.countOnDisk }
    else none
  if e.count == 0 then return place (e.position - e.offset)
  if e.position ≤ e.offset then .error .offsetBeyondEnd
  match markBetween? data headerMark e.offset e.position with
  | some found => return place (found - e.offset)
  | none => .error .noHeader

def wideLead (data : ByteArray) (l : Locator) : Except DirectoryFault Lead := do
  if l.position ≤ l.offset then .error .wideOffsetBeyondLocator
  if 1 < l.disks then .error .severalDisks
  let (position, e) ← findWideEnd data l (l.position + 1 - (l.offset + 4)) l.offset .noWideEnd
  let shift := position - l.offset
  if e.count < e.countOnDisk || e.versionMade < e.versionNeeded || e.disk != e.directoryDisk ||
      wordLimit ≤ e.offset + shift then
    return none
  return some { start := e.offset + shift, shift, count := e.count }

inductive ForeignPacking where
  | deflate64
  | bzip2
  | lzma
  | zstandard
  | xz
  deriving DecidableEq, Repr

inductive Method where
  | stored
  | deflated
  | foreign (packing : ForeignPacking)
  | sealed
  | unsupported
  deriving DecidableEq

def Method.ofNumber : Nat → Method
  | 0 => .stored
  | 8 => .deflated
  | 9 => .foreign .deflate64
  | 12 => .foreign .bzip2
  | 14 => .foreign .lzma
  | 93 => .foreign .zstandard
  | 95 => .foreign .xz
  | 99 => .sealed
  | _ => .unsupported

/-- What a header of the directory says of an entry. `strong` marks encryption by a block cipher. -/
structure Header where
  name : String
  rawName : List UInt8
  comment : String
  encrypted : Bool
  method : Method
  strong : Bool := false
  checksum : UInt32
  packedSize : Nat
  size : Nat
  start : Nat

/-- What reading one extra field of a header leads to. A field that breaks off ends the reading and
keeps what came before it. -/
inductive Extra where
  | next (header : Header) (rest : List UInt8)
  | cutShort (header : Header)
  | invalid

def takeNumber? (width : Nat) (bs : List UInt8) : Option (Nat × List UInt8) :=
  if width ≤ bs.length then some (wordOf (bs.take width), bs.drop width) else none

def passOver (h : Header) (n : Nat) (bs : List UInt8) : Extra :=
  if n ≤ bs.length then .next h (bs.drop n) else .cutShort h

inductive WideField where
  | size
  | packedSize
  | start

def WideField.get : WideField → Header → Nat
  | .size, h => h.size
  | .packedSize, h => h.packedSize
  | .start, h => h.start

def WideField.set : WideField → Nat → Header → Header
  | .size, n, h => { h with size := n }
  | .packedSize, n, h => { h with packedSize := n }
  | .start, n, h => { h with start := n }

/-- Reads wide fields: all of them if there is room, else those whose narrow field asks for one. -/
def wideExtra (length : Nat) : List WideField → Nat → Header → List UInt8 → Extra
  | [], used, h, bs => if length < used then .invalid else passOver h (length - used) bs
  | f :: fs, used, h, bs =>
    if 24 ≤ length || f.get h == escape32 then
      match takeNumber? 8 bs with
      | none => .cutShort h
      | some (n, bs) => wideExtra length fs (used + 8) (f.set n h) bs
    else wideExtra length fs used h bs

/-- Three times of a file: a reserved word, the tag and size of the one attribute, and the times. -/
def fileTimesExtra (length : Nat) (h : Header) (bs : List UInt8) : Extra :=
  if length != 32 then .invalid
  else match takeNumber? 4 bs with
    | none => .cutShort h
    | some (_, bs) =>
      match takeNumber? 2 bs with
      | none => .cutShort h
      | some (tag, bs) =>
        if tag != 1 then .invalid
        else match takeNumber? 2 bs with
          | none => .cutShort h
          | some (size, bs) => if size != 24 then .invalid else passOver h 24 bs

/-- Encryption by a block cipher: the method of the contents is given here. -/
def cipherExtra (length : Nat) (h : Header) (bs : List UInt8) : Extra :=
  if length != 7 then .invalid
  else if bs.length < 7 then .cutShort h
  else
    let version := wordOf (bs.take 2)
    let vendor := wordOf ((bs.drop 2).take 2)
    let strength := wordOf ((bs.drop 4).take 1)
    let method := wordOf ((bs.drop 5).take 2)
    if vendor != 0x4541 || version == 0 || 2 < version || strength == 0 || 3 < strength then .invalid
    else .next { h with method := .ofNumber method, strong := true } (bs.drop 7)

/-- Times by flags, of which there are three. A length of five stands for the time of change alone. -/
def timesExtra (length : Nat) (h : Header) : List UInt8 → Extra
  | [] => .cutShort h
  | flags :: bs =>
    let flag (i : Nat) : Bool := flags.toNat.testBit i
    let set := ((List.range 8).filter flag).length
    if (length != 5 && length != 1 + 4 * set) || 8 ≤ flags.toNat then .invalid
    else
      let times := (flag 0 || length == 5).toNat + (flag 1 && 5 < length).toNat +
        (flag 2 && 5 < length).toNat
      passOver h (4 * times) bs

/-- A text that replaces another one, given with the checksum of that one. -/
def replacement (length : Nat) (replaced : List UInt8) (h : Header) (bs : List UInt8)
    (use : String → List UInt8 → Header) : Extra :=
  if bs.length < 5 then .cutShort h
  else if length < 5 then .invalid
  else
    let checksum := wordOf ((bs.drop 1).take 4)
    let text := (bs.drop 5).take (length - 5)
    if text.length < length - 5 then .cutShort h
    else if (Checksum.ofBytes replaced).toNat != checksum then .invalid
    else match Text.decode? ⟨text.toArray⟩ with
      | none => .invalid
      | some s => .next (use s text) (bs.drop length)

def extra (h : Header) (bs : List UInt8) : Extra :=
  match takeNumber? 2 bs with
  | none => .cutShort h
  | some (kind, bs) =>
    match takeNumber? 2 bs with
    | none => .cutShort h
    | some (length, bs) =>
      match kind with
      | 0x0001 => wideExtra length [.size, .packedSize, .start] 0 h bs
      | 0x000a => fileTimesExtra length h bs
      | 0x9901 => cipherExtra length h bs
      | 0x5455 => timesExtra length h bs
      | 0x6375 =>
        replacement length (Text.utf8 h.comment) h bs fun s _ => { h with comment := s }
      | 0x7075 =>
        replacement length h.rawName h bs fun s raw => { h with name := s, rawName := raw }
      | _ => passOver h length bs

/-- Reads the extra fields of a header; each takes at least four bytes. -/
def extras : Nat → Header → List UInt8 → Option Header
  | 0, h, _ => some h
  | fuel + 1, h, bs =>
    if bs.isEmpty then some h
    else match extra h bs with
      | .next h bs => extras fuel h bs
      | .cutShort h => some h
      | .invalid => none

/-- Reads the header at a position and gives the position after it. The entry must stand before the
directory. -/
def header? (data : ByteArray) (place : Place) (i : Nat) : Option (Header × Nat) := do
  let word (offset width : Nat) := Bytes.word? data .leastFirst (i + offset) width
  guard (markAt data headerMark i)
  let flags ← word 8 2
  let method ← word 10 2
  let checksum ← word 16 4
  let packedSize ← word 20 4
  let size ← word 24 4
  let nameLength ← word 28 2
  let extraLength ← word 30 2
  let commentLength ← word 32 2
  let start ← word 42 4
  let rawName ← Bytes.slice? data (i + 46) nameLength
  let extraBytes ← Bytes.slice? data (i + 46 + nameLength) extraLength
  let rawComment ← Bytes.slice? data (i + 46 + nameLength + extraLength) commentLength
  let decode := if flags.testBit 11 then Text.decodeLossy else CodePage437.decode
  let h ← extras extraBytes.length
    { name := decode rawName
      comment := decode rawComment
      rawName, packedSize, size, start
      encrypted := flags.testBit 0
      method := .ofNumber method
      checksum := checksum.toUInt32 } extraBytes
  guard (h.method != .sealed || h.strong)
  guard (h.start + place.shift < wordLimit)
  guard (h.start + place.shift < place.start)
  return ({ h with start := h.start + place.shift },
    i + 46 + nameLength + extraLength + commentLength)

def headersFrom? (data : ByteArray) (place : Place) : Nat → Nat → Option (List Header)
  | 0, _ => some []
  | count + 1, i => do
    let (h, next) ← header? data place i
    let hs ← headersFrom? data place count next
    return h :: hs

def headers? (data : ByteArray) (place : Place) : Option (List Header) :=
  headersFrom? data place place.count place.start

/-- The headers that an end record leads to, or `none` if they are unusable. -/
def follow (data : ByteArray) (e : EndRecord) : Except DirectoryFault (Option (List Header)) := do
  let lead ← match readLocator? data e with
    | none => narrowLead data e
    | some l => wideLead data l
  return lead.bind (headers? data)

/-- Searches for an end record before `stop`. A record that leads nowhere is passed over and its fault
is kept; after one whose headers are unusable the search starts afresh. -/
def search (data : ByteArray) : Nat → Nat → DirectoryFault → Except DirectoryFault (List Header)
  | 0, _, fault => .error fault
  | fuel + 1, stop, fault =>
    match lastMark? data endMark stop with
    | none => .error fault
    | some position =>
      match readEnd data position with
      | .error e => search data fuel (position + 3) (if fault == .noEnd then e else fault)
      | .ok record =>
        match follow data record with
        | .error fault => search data fuel (position + 3) fault
        | .ok none => search data fuel position .noEnd
        | .ok (some headers) => .ok headers

def read (data : ByteArray) : Except DirectoryFault (List Header) :=
  search data (data.size + 1) data.size .noEnd

end Directory

end CryptoSurvey
