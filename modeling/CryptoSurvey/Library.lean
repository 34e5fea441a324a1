import CryptoSurvey.Path
import CryptoSurvey.Signature

namespace CryptoSurvey

structure Library where
  path : String
  data : ByteArray

structure RejectedLibrary where
  path : String
  reason : String
  deriving DecidableEq, Repr, Inhabited

def Library.fileName (l : Library) : String :=
  baseName l.path

/-- The constants that occur anywhere in the file of a library, with their least positions. -/
def Library.locateConstants (registry : Registry) (l : Library) : OrderedMap String Nat :=
  Signature.locate registry l.data.data.toList

end CryptoSurvey
