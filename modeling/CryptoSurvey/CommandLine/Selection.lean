import CryptoSurvey.CommandLine.Arguments

namespace CryptoSurvey

inductive SelectionError where
  | missingPath (path : Path)
  | neitherFileNorDirectory (path : Path)
  | missingRules (path : Path)
  | missingClasses (path : Path)
  | noJobs
  | outputNotDirectory (path : Path)
  | unreadableDirectory (path : Path)
  deriving DecidableEq

def SelectionError.message : SelectionError → String
  | .missingPath p => s!"Path does not exist: {p.text}"
  | .neitherFileNorDirectory p => s!"Path is neither a file nor a directory: {p.text}"
  | .missingRules p => s!"Rules file does not exist: {p.text}"
  | .missingClasses p => s!"Classes directory does not exist: {p.text}"
  | .noJobs => "--jobs must be at least 1"
  | .outputNotDirectory p => s!"Output path is not a directory: {p.text}"
  | .unreadableDirectory p => s!"Cannot read directory: {p.text}"

def appExtension : String := "apk"

mutual

def FileNode.apps (path : Path) : FileNode → List Path
  | .file _ => if path.extension? == some appExtension then [path] else []
  | .device => []
  | .directory entries =>
    ((appsOfEntries path entries).mergeSort fun a b => decide (a.1 ≤ b.1)).flatMap (·.2)

/-- For every entry of a directory, its name and the archives there and below. -/
def appsOfEntries (path : Path) : List (String × FileNode) → List (String × List Path)
  | [] => []
  | (name, node) :: rest => (name, node.apps (path.join ⟨name⟩)) :: appsOfEntries path rest

end

namespace FileTree

def walk (tree : FileTree) (root : Path) : Except SelectionError (List Path) :=
  match tree.lookup root with
  | .error _ => .error (.unreadableDirectory root)
  | .ok node => .ok (node.apps root)

def validate (tree : FileTree) (path : Path) : Except SelectionError Unit :=
  match tree.lookup path with
  | .error _ => .error (.missingPath path)
  | .ok .device => .error (.neitherFileNorDirectory path)
  | .ok _ => .ok ()

end FileTree

namespace Arguments

def validate (a : Arguments) (tree : FileTree) : Except SelectionError Unit := do
  a.apps.forM tree.validate
  if let some rules := a.rules? then
    if !tree.isFile rules then .error (.missingRules rules)
  if let some directory := a.classesDirectory? then
    if !tree.isDirectory directory then .error (.missingClasses directory)
  if a.jobs? == some 0 then .error .noJobs
  if tree.contains a.output && !tree.isDirectory a.output then .error (.outputNotDirectory a.output)

def appsAt (tree : FileTree) (path : Path) : Except SelectionError (List Path) :=
  if tree.isDirectory path then tree.walk path else .ok [path]

def collect (a : Arguments) (tree : FileTree) : Except SelectionError (List Path) := do
  return (← a.apps.mapM (appsAt tree)).flatten

end Arguments

end CryptoSurvey
