import CryptoSurvey.Image.Foreign

namespace CryptoSurvey.Image

open Foreign

def bigObjectId : List UInt8 :=
  [0xc7, 0xa1, 0xba, 0xd1, 0xee, 0xba, 0xa9, 0x4b, 0xaf, 0x20, 0xfa, 0xf6, 0x6a, 0xa4, 0xdc, 0xb8]

/-- The size of words of an ELF file; files of other formats are refused after a look at their
headers. -/
def wordSize (data : ByteArray) : Except ImageError WordSize :=
  let refuse (format : ForeignFormat) (check : Except ImageError Unit) :
      Except ImageError WordSize := do
    check
    .error (.foreign format)
  match Bytes.slice? data 0 16 with
  | none => .error .tooShort
  | some magic =>
    match magic with
    | 0x21 :: 0x3c :: 0x61 :: 0x72 :: 0x63 :: 0x68 :: 0x3e :: 0x0a :: _
    | 0x21 :: 0x3c :: 0x74 :: 0x68 :: 0x69 :: 0x6e :: 0x3e :: 0x0a :: _
    | 0x64 :: 0x79 :: 0x6c :: 0x64 :: 0x5f :: 0x76 :: 0x31 :: 0x20 :: _ => .error .unsupportedFormat
    | 0x7f :: 0x45 :: 0x4c :: 0x46 :: 1 :: _ => .ok .bits32
    | 0x7f :: 0x45 :: 0x4c :: 0x46 :: 2 :: _ => .ok .bits64
    | 0xfe :: 0xed :: 0xfa :: 0xce :: _ => refuse .machO (checkMachO data .mostFirst .bits32)
    | 0xce :: 0xfa :: 0xed :: 0xfe :: _ => refuse .machO (checkMachO data .leastFirst .bits32)
    | 0xfe :: 0xed :: 0xfa :: 0xcf :: _ => refuse .machO (checkMachO data .mostFirst .bits64)
    | 0xcf :: 0xfa :: 0xed :: 0xfe :: _ => refuse .machO (checkMachO data .leastFirst .bits64)
    | 0xca :: 0xfe :: 0xba :: 0xbe :: _
    | 0xca :: 0xfe :: 0xba :: 0xbf :: _ => .error .unsupportedFormat
    | 0x4d :: 0x5a :: _ =>
      match peWordSize? data with
      | some size => refuse .pe (checkPe data size)
      | none => .error .unknownDosFile
    | 0xc4 :: 0x01 :: _ | 0x64 :: 0xaa :: _ | 0x41 :: 0xa6 :: _ | 0x4c :: 0x01 :: _
    | 0x64 :: 0x86 :: _ | 0xf0 :: 0x01 :: _ | 0xf1 :: 0x01 :: _ | 0xf2 :: 0x01 :: _ =>
      refuse .coff (checkCoff data)
    | 0x00 :: 0x00 :: 0xff :: 0xff :: 0x00 :: 0x00 :: _ => .error .unsupportedFormat
    | 0x00 :: 0x00 :: 0xff :: 0xff :: 0x02 :: 0x00 :: _ =>
      if (Bytes.slice? data 0 32).any fun header => (header.drop 12).take 16 == bigObjectId then
        refuse .coff (checkBigCoff data)
      else .error .unknownAnonymousObject
    | 0x01 :: 0xdf :: _ => refuse .xcoff (checkXcoff data .bits32)
    | 0x01 :: 0xf7 :: _ => refuse .xcoff (checkXcoff data .bits64)
    | _ => .error .unknownMagic

end CryptoSurvey.Image
