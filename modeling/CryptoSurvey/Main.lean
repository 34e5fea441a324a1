import CryptoSurvey.Program

namespace CryptoSurvey.Main

def usage : String :=
  "Detect cryptographic algorithm usage in Android application packages

Usage: crypto-survey [OPTIONS] <APK>...

Arguments:
  <APK>...                    Application archives, or directories searched for *.apk

Options:
  -o, --output <DIR>          Directory of managed.jsonl, native.jsonl, summary.jsonl and the log
      --rules <FILE>          Rules file (JSON or YAML) overriding parts of the bundled rules
      --classes-dir <DIR>     Directory of <app stem>.json documents with decompiled code
      --native-only           Only analyse embedded native libraries
      --timeout <SECS>        Time budget of an application in seconds (0 disables it)
  -j, --jobs <N>              Number of applications analysed in parallel
      --max-library-size <N>  Largest embedded library read into memory, in bytes
      --raw-search            Also search whole library files for constants
  -v, --verbose               Increase verbosity
  -q, --quiet                 Suppress all output except errors
  -h, --help                  Print help"

def refusal : ArgumentError → String
  | .help => usage
  | .unknown => "error: unexpected argument"
  | .missingApps => "error: the following required arguments were not provided: <APK>..."
  | .missingValue | .emptyValue => "error: a value is required"
  | .invalidNumber => "error: invalid number"
  | .repeated => "error: an argument cannot be used multiple times"
  | .unexpectedValue => "error: unexpected value"

def systemPath (place : TreePath) : String :=
  "/" ++ "/".intercalate place

def placeOf (working : TreePath) (p : Path) : TreePath :=
  p.names.foldl (fun place name =>
    if Path.isPassedOver name then place
    else if name == ".." then place.dropLast
    else place ++ [name]) (if p.isAbsolute then [] else working)

/-- Reads what stands at a place, if anything does, with all that is below it. -/
partial def readNode (place : TreePath) (deep : Bool) : IO (Option FileNode) := do
  let path := (← IO.currentDir) / systemPath place
  if ← path.isDir then
    if !deep then return some (.directory [])
    let mut entries := #[]
    for entry in ← path.readDir do
      if let some node ← readNode (place ++ [entry.fileName]) true then
        entries := entries.push (entry.fileName, node)
    return some (.directory entries.toList)
  else if ← path.pathExists then
    if (← path.metadata).type == .file then return some (.file (← IO.FS.readBinFile path))
    else return some .device
  else return none

/-- Reads what stands at a place into a tree, and the directories on the way. -/
def readInto (tree : FileTree) (place : TreePath) (deep : Bool) : IO FileTree := do
  let mut root := tree.root
  for i in List.range place.length do
    let above := place.take i
    if (root.at? above).isNone then
      if let some node ← readNode above false then root := root.put above node
  if let some node ← readNode place deep then
    if deep || (root.at? place).isNone then root := root.put place node
  return { tree with root }

def resultNames : List String :=
  [RowKind.managed.fileName, RowKind.native.fileName, RowKind.summary.fileName, logFileName]

def readTree (a : Arguments) : IO FileTree := do
  let working := (Path.mk (← IO.currentDir).toString).names.filter (!Path.isPassedOver ·)
  let mut tree : FileTree := { root := .directory [], working }
  tree ← readInto tree working false
  let output := placeOf working a.output
  tree ← readInto tree output false
  for name in resultNames do
    tree ← readInto tree (output ++ [name]) false
  for path in a.rules?.toList ++ a.classesDirectory?.toList ++ a.apps do
    tree ← readInto tree (placeOf working path) true
  for app in (a.collect tree).toOption.getD [] do
    tree ← readInto tree (placeOf working (sidecarPath app a.classesDirectory?)) true
  return tree

def writeResults (output : TreePath) (tree : FileTree) : IO Unit := do
  if (tree.root.at? output).any FileNode.isDirectory then
    IO.FS.createDirAll (systemPath output)
    for name in resultNames do
      if let some (.file contents) := tree.root.at? (output ++ [name]) then
        IO.FS.writeBinFile (systemPath (output ++ [name])) contents

/-- What every look at the clock finds if an analysis took the given time: nothing, unless the budget
was passed. -/
def clocksAfter (d : Deadline) (elapsed : Nat) : Clocks :=
  let look := if d.isExpired elapsed then elapsed else 0
  ⟨fun _ => look, fun _ => look, elapsed⟩

def step (job : Program.Job) (quiet : Bool) (tree : FileTree) (app : Path) : IO FileTree := do
  let started ← IO.monoMsNow
  let result ← IO.lazyPure fun _ =>
    Application.survey job.rules tree job.options .stopped app
  let elapsed := (← IO.monoMsNow) - started
  let clocks := clocksAfter job.options.deadline elapsed
  let outcome := if job.options.deadline.isExpired elapsed
    then Batch.unit job.rules job.options clocks tree app
    else UnitOutcome.ofResult app elapsed result
  let notices := Batch.notices job.rules job.options clocks tree app
  for n in notices do
    if !quiet then IO.eprintln n.line
  return job.record outcome notices tree

def run (a : Arguments) : IO UInt32 := do
  let tree ← readTree a
  let output := placeOf tree.working a.output
  match Program.prepare a tree with
  | (.error e, tree) =>
    writeResults output tree
    IO.eprintln e.message
    return 1
  | (.ok none, tree) =>
    writeResults output tree
    return 0
  | (.ok (some job), tree) =>
    let mut tree := tree
    for app in job.apps do
      tree ← step job a.quiet tree app
      writeResults output tree
    return 0

end CryptoSurvey.Main

def main (arguments : List String) : IO UInt32 := do
  match CryptoSurvey.Arguments.parse arguments with
  | .error .help =>
    IO.println CryptoSurvey.Main.usage
    return 0
  | .error e =>
    IO.eprintln (CryptoSurvey.Main.refusal e)
    return 2
  | .ok a => CryptoSurvey.Main.run a
