namespace CryptoSurvey.Checksum

def shift (c : UInt32) : UInt32 :=
  if c &&& 1 == 1 then (c >>> 1) ^^^ 0xedb88320 else c >>> 1

def step (c : UInt32) (b : UInt8) : UInt32 :=
  shift (shift (shift (shift (shift (shift (shift (shift (c ^^^ b.toUInt32))))))))

def ofBytes (bs : List UInt8) : UInt32 :=
  bs.foldl step 0xffffffff ^^^ 0xffffffff

end CryptoSurvey.Checksum
