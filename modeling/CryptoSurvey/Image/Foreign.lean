import CryptoSurvey.ByteOrder
import CryptoSurvey.Image.Error

namespace CryptoSurvey.Image

inductive WordSize where
  | bits32
  | bits64
  deriving DecidableEq, Repr

def WordSize.pick {α : Type} (size : WordSize) (narrow wide : α) : α :=
  match size with
  | .bits32 => narrow
  | .bits64 => wide

namespace Foreign

def check (data : ByteArray) (offset size : Nat) (fault : String) : Except ImageError Unit :=
  if (Bytes.slice? data offset size).isSome then .ok () else .error (.foreignHeader fault)

def word (data : ByteArray) (order : ByteOrder) (offset width : Nat) : Nat :=
  (Bytes.word? data order offset width).getD 0

/-- A table of symbols of one size, followed by a table of strings that starts with its length. -/
def checkSymbols (data : ByteArray) (name : String) (start count size : Nat) :
    Except ImageError Unit := do
  if start != 0 then
    check data start (count * size) s!"Invalid {name} symbol table offset or size"
    check data (start + count * size) 4 s!"Missing {name} string table"

def checkSections (data : ByteArray) (start count : Nat) : Except ImageError Unit :=
  check data start (count * 40) "Invalid COFF/PE section headers"

def checkCoff (data : ByteArray) : Except ImageError Unit := do
  check data 0 20 "Invalid COFF file header size or alignment"
  let word := word data .leastFirst
  checkSections data (20 + word 16 2) (word 2 2)
  checkSymbols data "COFF" (word 8 4) (word 12 4) 18

/-- Object files with more sections than usual have a header of their own. -/
def checkBigCoff (data : ByteArray) : Except ImageError Unit := do
  check data 0 56 "Invalid COFF bigobj file header size or alignment"
  let word := word data .leastFirst
  checkSections data 56 (word 44 4)
  checkSymbols data "COFF" (word 48 4) (word 52 4) 20

/-- Executables have a second header of one size; headers of other sizes are passed over. -/
def checkXcoff (data : ByteArray) (size : WordSize) : Except ImageError Unit := do
  let headerSize := size.pick 20 24
  check data 0 headerSize "Invalid XCOFF header size or alignment"
  let word := word data .mostFirst
  let sectionCount := word 2 2
  let symbolsAt := word 8 (size.pick 4 8)
  let symbolCount := word (size.pick 12 20) 4
  let secondSize := word 16 2
  let executable := (word 18 2).testBit 1
  if executable && secondSize == size.pick 72 120 then
    check data headerSize secondSize "Invalid XCOFF auxiliary header size"
  check data (headerSize + secondSize) (sectionCount * size.pick 40 72)
    "Invalid XCOFF section headers"
  checkSymbols data "XCOFF" symbolsAt symbolCount 18

structure Command where
  number : Nat
  offset : Nat
  size : Nat

/-- The commands of a Mach-O file between two offsets, up to the first that does not fit. -/
def commandsFrom (data : ByteArray) (order : ByteOrder) (stop : Nat) : Nat → Nat → List Command
  | 0, _ => []
  | count + 1, offset =>
    let size := word data order (offset + 4) 4
    if stop < offset + 8 || size < 8 || stop < offset + size then []
    else ⟨word data order offset 4, offset, size⟩ :: commandsFrom data order stop count (offset + size)

def segmentCommand (size : WordSize) : Nat := size.pick 1 0x19

def symbolsCommand : Nat := 2

/-- Checks the sections of a segment and the table of symbols; other commands are passed over. -/
def checkCommand (data : ByteArray) (order : ByteOrder) (size : WordSize) (c : Command) :
    Except ImageError Unit := do
  let tooSmall := Except.error (ImageError.foreignHeader "Invalid Mach-O command size")
  if c.number == segmentCommand size then
    let headerSize := size.pick 56 72
    if c.size < headerSize then tooSmall
    let sections := word data order (c.offset + size.pick 48 64) 4
    if c.size < headerSize + sections * size.pick 68 80 then
      .error (.foreignHeader "Invalid Mach-O number of sections")
  else if c.number == symbolsCommand then
    if c.size < 24 then tooSmall
    let start := word data order (c.offset + 8) 4
    let count := word data order (c.offset + 12) 4
    check data start (count * size.pick 12 16) "Invalid Mach-O symbol table offset or size"

def checkMachO (data : ByteArray) (order : ByteOrder) (size : WordSize) :
    Except ImageError Unit := do
  let headerSize := size.pick 28 32
  check data 0 headerSize "Invalid Mach-O header size or alignment"
  let count := word data order 16 4
  let stop := headerSize + word data order 20 4
  if stop ≤ data.size then
    (commandsFrom data order stop count headerSize).forM (checkCommand data order size)

def peOffset? (data : ByteArray) : Option Nat := do
  let offset ← Bytes.word? data .leastFirst 60 4
  let _ ← Bytes.slice? data offset 120
  guard (Bytes.slice? data offset 4 == some [0x50, 0x45, 0, 0])
  return offset

/-- The width of words in a PE file, by the magic number of its second header. -/
def peWordSize? (data : ByteArray) : Option WordSize := do
  match ← Bytes.word? data .leastFirst ((← peOffset? data) + 24) 2 with
  | 0x10b => some .bits32
  | 0x20b => some .bits64
  | _ => none

def checkPe (data : ByteArray) (size : WordSize) : Except ImageError Unit := do
  let offset := (peOffset? data).getD 0
  let headerSize := size.pick 120 136
  check data offset headerSize "Invalid PE headers offset or size"
  let word (position width : Nat) : Nat := word data .leastFirst (offset + position) width
  let given := word 20 2
  let least := size.pick 96 112
  if given < least then .error (.foreignHeader "PE optional header size is too small")
  check data (offset + headerSize) (given - least) "Invalid PE optional header size"
  if given - least < word (headerSize - 4) 4 * 8 then
    .error (.foreignHeader "Invalid PE number of RVA and sizes")
  checkSections data (offset + headerSize + (given - least)) (word 6 2)

end Foreign

end CryptoSurvey.Image
