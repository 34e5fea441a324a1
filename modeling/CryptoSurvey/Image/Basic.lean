import CryptoSurvey.Image.Kind
import CryptoSurvey.Ordered.Map
import CryptoSurvey.Text.Utf8

namespace CryptoSurvey

/-- A section; its contents are `none` if they do not lie in the file. -/
structure Section where
  name? : Option String
  contents? : Option (List UInt8)
  deriving DecidableEq

structure Image where
  sections : List Section
  /-- The names in the static table of symbols. -/
  staticSymbols : List (Option String)
  dynamicSymbols : List (Option String)
  deriving DecidableEq

namespace Image

structure Layout where
  order : ByteOrder
  size : WordSize

namespace Layout

def word? (l : Layout) (data : ByteArray) (offset width : Nat) : Option Nat :=
  Bytes.word? data l.order offset width

def pick {α : Type} (l : Layout) (narrow wide : α) : α :=
  l.size.pick narrow wide

def wordWidth (l : Layout) : Nat := l.pick 4 8

def headerSize (l : Layout) : Nat := l.pick 52 64

def programHeaderSize (l : Layout) : Nat := l.pick 32 56

def sectionHeaderSize (l : Layout) : Nat := l.pick 40 64

def symbolSize (l : Layout) : Nat := l.pick 16 24

end Layout

structure Header where
  programsAt : Nat
  programEntrySize : Nat
  programCount : Nat
  sectionsAt : Nat
  sectionEntrySize : Nat
  sectionCount : Nat
  nameIndex : Nat

structure SectionHeader where
  name : Nat
  kind : Nat
  offset : Nat
  size : Nat
  link : Nat
  info : Nat

def symbolTableKind : Nat := 2

def stringTableKind : Nat := 3

def noBitsKind : Nat := 8

def dynamicSymbolKind : Nat := 11

def symbolIndexKind : Nat := 18

def relocationKinds : List Nat := [4, 9, 0x40000014]

def demand {α : Type} (e : ImageError) : Option α → Except ImageError α
  | some a => .ok a
  | none => .error e

def Header.read? (l : Layout) (data : ByteArray) : Option Header := do
  let w := l.wordWidth
  let half (narrow wide : Nat) : Option Nat := l.word? data (l.pick narrow wide) 2
  return { programsAt := ← l.word? data (l.pick 28 32) w,
           programEntrySize := ← half 42 54,
           programCount := ← half 44 56,
           sectionsAt := ← l.word? data (l.pick 32 40) w,
           sectionEntrySize := ← half 46 58,
           sectionCount := ← half 48 60,
           nameIndex := ← half 50 62 }

def SectionHeader.read? (l : Layout) (data : ByteArray) (offset : Nat) : Option SectionHeader := do
  let w := l.wordWidth
  return { name := ← l.word? data offset 4,
           kind := ← l.word? data (offset + 4) 4,
           offset := ← l.word? data (offset + l.pick 16 24) w,
           size := ← l.word? data (offset + l.pick 20 32) w,
           link := ← l.word? data (offset + l.pick 24 40) 4,
           info := ← l.word? data (offset + l.pick 28 44) 4 }

/-- The layout that the first bytes of an ELF file announce, if the file has a whole header. -/
def layout (data : ByteArray) (size : WordSize) : Except ImageError Layout := do
  let headerSize := Layout.headerSize ⟨.leastFirst, size⟩
  let header ← demand .header (Bytes.slice? data 0 headerSize)
  match header.drop 5 with
  | 1 :: 1 :: _ => .ok ⟨.leastFirst, size⟩
  | 2 :: 1 :: _ => .ok ⟨.mostFirst, size⟩
  | _ => .error .unsupportedHeader

/-- The first section header, which holds numbers too large for the file header. -/
def sectionZero? (l : Layout) (data : ByteArray) (h : Header) :
    Except ImageError (Option SectionHeader) :=
  if h.sectionsAt == 0 then .ok none
  else if h.sectionEntrySize != l.sectionHeaderSize then .error .sectionEntrySize
  else if data.size < h.sectionsAt + l.sectionHeaderSize then .error .sectionZero
  else (demand .sectionZero (SectionHeader.read? l data h.sectionsAt)).map some

def checkPrograms (l : Layout) (data : ByteArray) (h : Header) : Except ImageError Unit := do
  if h.programsAt == 0 then return ()
  let count ←
    if h.programCount != 0xffff then pure h.programCount
    else match ← sectionZero? l data h with
      | some s => pure s.info
      | none => .error .programCount
  if count == 0 then return ()
  if h.programEntrySize != l.programHeaderSize then .error .programEntrySize
  if data.size < h.programsAt + count * l.programHeaderSize then .error .programHeaders

def sectionHeaders (l : Layout) (data : ByteArray) (h : Header) :
    Except ImageError (List SectionHeader) := do
  if h.sectionsAt == 0 then return []
  let count ←
    if h.sectionCount != 0 then pure h.sectionCount
    else pure (((← sectionZero? l data h).map (·.size)).getD 0)
  if count == 0 then return []
  if h.sectionEntrySize != l.sectionHeaderSize then .error .sectionEntrySize
  if data.size < h.sectionsAt + count * l.sectionHeaderSize then .error .sectionHeaders
  demand .sectionHeaders ((List.range count).mapM fun i =>
    SectionHeader.read? l data (h.sectionsAt + i * l.sectionHeaderSize))

structure NameTable where
  range? : Option (Nat × Nat) := none

def NameTable.bytes? (t : NameTable) (data : ByteArray) (offset : Nat) : Option (List UInt8) := do
  let (start, stop) ← t.range?
  if stop < start + offset then none
  let tail ← Bytes.slice? data (start + offset) (stop - (start + offset))
  if tail.contains 0 then some (tail.takeWhile (· != 0)) else none

def NameTable.name? (t : NameTable) (data : ByteArray) (offset : Nat) : Option String := do
  Text.decode? ⟨(← t.bytes? data offset).toArray⟩

def sectionNames (l : Layout) (data : ByteArray) (h : Header) (headers : List SectionHeader) :
    Except ImageError NameTable := do
  if headers.isEmpty then return {}
  let index ←
    if h.nameIndex != 0xffff then pure h.nameIndex
    else match ← sectionZero? l data h with
      | some s => pure s.link
      | none => .error .nameIndexOverflow
  if index == 0 then .error .noNameIndex
  let s ← demand .nameIndex headers[index]?
  if s.kind == noBitsKind then return {}
  if s.offset + s.size ≥ wordLimit then .error .nameTable
  return { range? := some (s.offset, s.offset + s.size) }

/-- The contents of a section; one without bits in the file is empty. -/
def contents? (data : ByteArray) (s : SectionHeader) : Option (List UInt8) :=
  if s.kind == noBitsKind then some [] else Bytes.slice? data s.offset s.size

/-- The names that a table of symbols refers to by the number of their section. -/
def linkedNames (headers : List SectionHeader) (link : Nat) : Except ImageError NameTable := do
  if link == 0 then return {}
  let s ← demand .sectionIndex headers[link]?
  if s.kind != stringTableKind then .error .stringSectionType
  if s.offset + s.size ≥ wordLimit then .error .stringSection
  return { range? := some (s.offset, s.offset + s.size) }

/-- Cuts bytes into pieces of one size, of which there are at most `count`. -/
def pieces (size : Nat) : Nat → List UInt8 → List (List UInt8)
  | 0, _ => []
  | count + 1, bs => bs.take size :: pieces size count (bs.drop size)

/-- Checks a section that belongs to the table of symbols with the given number. -/
def checkSymbolIndices (data : ByteArray) (table : Nat) (s : SectionHeader) :
    Except ImageError Unit := do
  if s.kind == symbolIndexKind && s.link == table then
    let indices ← demand .symbolIndices (contents? data s)
    if indices.length % 4 != 0 then .error .symbolIndices

/-- The names of the symbols in the first section of a kind, and the number of that section. The first
symbol stands for none. -/
def symbolNames (l : Layout) (data : ByteArray) (headers : List SectionHeader) (kind : Nat) :
    Except ImageError (Nat × List (Option String)) := do
  match headers.findIdx? (·.kind == kind), headers.find? (·.kind == kind) with
  | some index, some table =>
    let bytes ← demand .symbols (contents? data table)
    if bytes.length % l.symbolSize != 0 then .error .symbols
    let names ← linkedNames headers table.link
    headers.forM (checkSymbolIndices data index)
    let entries := pieces l.symbolSize (bytes.length / l.symbolSize) bytes
    return (index, (entries.drop 1).map fun e => names.name? data (l.order.word (e.take 4)))
  | _, _ => return (0, [])

/-- Checks which sections the relocations apply to, from the last section to the first. -/
def checkRelocations (headers : List SectionHeader) (symbolSection : Nat) :
    Except ImageError Unit :=
  headers.reverse.forM fun s => do
    if relocationKinds.contains s.kind && s.link == symbolSection && s.info != 0 then
      let target ← demand .relocationTarget headers[s.info]?
      if relocationKinds.contains target.kind then .error .nestedRelocation

def parse (data : ByteArray) : Except ImageError Image := do
  let l ← layout data (← wordSize data)
  let h ← demand .header (Header.read? l data)
  checkPrograms l data h
  let headers ← sectionHeaders l data h
  let names ← sectionNames l data h headers
  let (symbolSection, staticSymbols) ← symbolNames l data headers symbolTableKind
  let (_, dynamicSymbols) ← symbolNames l data headers dynamicSymbolKind
  checkRelocations headers symbolSection
  return { sections := (headers.drop 1).map fun s => ⟨names.name? data s.name, contents? data s⟩,
           staticSymbols, dynamicSymbols }

/-- Keeps the contents of a section under its name, if both can be read and the name is not taken. -/
def keepSection (kept : OrderedMap String (List UInt8)) (s : Section) :
    OrderedMap String (List UInt8) :=
  match s.name?, s.contents? with
  | some name, some contents => kept.alter name (·.getD contents)
  | _, _ => kept

def regions (image : Image) : OrderedMap String (List UInt8) :=
  image.sections.foldl keepSection ∅

def region? (image : Image) (name : String) : Option (List UInt8) :=
  image.regions.get? name

def namesIn (table : List (Option String)) : List String :=
  (table.filterMap fun s? => s?.filter (!·.isEmpty)).eraseDups

def symbols (image : Image) : List String :=
  namesIn (image.staticSymbols ++ image.dynamicSymbols)

end Image

end CryptoSurvey
