namespace CryptoSurvey

inductive ForeignFormat where
  | machO
  | coff
  | xcoff
  | pe
  deriving DecidableEq, Repr

def ForeignFormat.name : ForeignFormat → String
  | .machO => "MachO"
  | .coff => "Coff"
  | .xcoff => "Xcoff"
  | .pe => "Pe"

inductive ImageError where
  | tooShort
  | unknownMagic
  | unknownDosFile
  | unknownAnonymousObject
  | unsupportedFormat
  | foreign (format : ForeignFormat)
  /-- A part of a file in another format does not lie in the file. -/
  | foreignHeader (reason : String)
  | header
  | unsupportedHeader
  | programCount
  | programEntrySize
  | programHeaders
  | sectionZero
  | sectionEntrySize
  | sectionHeaders
  | nameIndexOverflow
  | noNameIndex
  | nameIndex
  | nameTable
  | symbols
  | sectionIndex
  | stringSectionType
  | stringSection
  | symbolIndices
  | relocationTarget
  | nestedRelocation
  deriving DecidableEq, Repr

def ImageError.message : ImageError → String
  | .tooShort => "Could not read file magic"
  | .unknownMagic => "Unknown file magic"
  | .unknownDosFile => "Unknown MS-DOS file"
  | .unknownAnonymousObject => "Unknown anon object file"
  | .unsupportedFormat => "Unsupported file format"
  | .foreign format => "found " ++ format.name
  | .foreignHeader reason => reason
  | .header => "Invalid ELF header size or alignment"
  | .unsupportedHeader => "Unsupported ELF header"
  | .programCount => "Missing ELF section headers for e_phnum overflow"
  | .programEntrySize => "Invalid ELF program header entry size"
  | .programHeaders => "Invalid ELF program header size or alignment"
  | .sectionZero => "Invalid ELF section header offset or size"
  | .sectionEntrySize => "Invalid ELF section header entry size"
  | .sectionHeaders => "Invalid ELF section header offset/size/alignment"
  | .nameIndexOverflow => "Missing ELF section headers for e_shstrndx overflow"
  | .noNameIndex => "Missing ELF e_shstrndx"
  | .nameIndex => "Invalid ELF e_shstrndx"
  | .nameTable => "Invalid ELF shstrtab size"
  | .symbols => "Invalid ELF symbol table data"
  | .sectionIndex => "Invalid ELF section index"
  | .stringSectionType => "Invalid ELF string section type"
  | .stringSection => "Invalid ELF string section offset or size"
  | .symbolIndices => "Invalid ELF symtab_shndx data"
  | .relocationTarget => "Invalid ELF sh_info for relocation section"
  | .nestedRelocation => "Unsupported ELF sh_info for relocation section"

end CryptoSurvey
