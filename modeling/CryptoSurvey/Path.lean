namespace CryptoSurvey

structure Path where
  text : String
  deriving DecidableEq, Inhabited

namespace Path

def pieces : List Char → List (List Char)
  | [] => [[]]
  | c :: rest =>
    if c == '/' then [] :: pieces rest
    else match pieces rest with
      | [] => [[c]]
      | p :: ps => (c :: p) :: ps

def names (p : Path) : List String :=
  (pieces p.text.toList).map String.ofList

def ofNames (names : List String) : Path :=
  ⟨"/".intercalate names⟩

def isPassedOver (name : String) : Bool :=
  name == "" || name == "."

def isAbsolute (p : Path) : Bool :=
  p.text.toList.head? == some '/'

def splitLast? (p : Path) : Option (List String × String) :=
  match p.names.reverse.dropWhile isPassedOver with
  | [] => none
  | name :: before => if name == ".." then none else some (before.reverse, name)

def parent (p : Path) : Path :=
  ofNames ((p.names.reverse.dropWhile isPassedOver).drop 1 |>.dropWhile isPassedOver).reverse

/-- The name of the file that a path leads to, unless it ends in its parent or a root. -/
def fileName? (p : Path) : Option String :=
  p.splitLast?.map (·.2)

def displayName (p : Path) : String :=
  p.fileName?.getD p.text

/-- The parts of a name before and after its last dot. A dot that starts the name divides nothing. -/
def splitDot? (name : String) : Option (String × String) :=
  let tail := name.toList.reverse.takeWhile (· != '.')
  match name.toList.reverse.drop tail.length with
  | [] => none
  | _ :: stem =>
    if stem.isEmpty then none else some (String.ofList stem.reverse, String.ofList tail.reverse)

def stemOf (name : String) : String :=
  match splitDot? name with
  | some (stem, _) => stem
  | none => name

def stem? (p : Path) : Option String :=
  p.fileName?.map stemOf

def extension? (p : Path) : Option String :=
  (p.fileName?.bind splitDot?).map (·.2)

/-- The path with another extension; it ends right after the name. -/
def withExtension (p : Path) (extension : String) : Path :=
  match p.splitLast? with
  | none => p
  | some (before, name) => ofNames (before ++ [stemOf name ++ "." ++ extension])

/-- A path below another one, unless it starts at the root. -/
def join (base p : Path) : Path :=
  if p.isAbsolute then p
  else match base.text.toList.getLast? with
    | none => p
    | some c => if c == '/' then ⟨base.text ++ p.text⟩ else ⟨base.text ++ "/" ++ p.text⟩

end Path

def baseName (entry : String) : String :=
  String.ofList (entry.toList.reverse.takeWhile (· != '/')).reverse

def isNativeLibrary (entry : String) : Bool :=
  "lib".toList.isPrefixOf entry.toList && ".so".toList.isSuffixOf entry.toList

/-- Where the decompiled code of an application lies: beside the archive or in a directory of its
own. -/
def sidecarPath (app : Path) : Option Path → Path
  | some directory => directory.join ⟨app.stem?.getD app.text ++ ".json"⟩
  | none => app.withExtension "classes.json"

end CryptoSurvey
