import CryptoSurvey.Error

namespace CryptoSurvey

/-- What stands at a place in the tree. A device holds nothing and forgets what is written. -/
inductive FileNode where
  | file (contents : ByteArray)
  | directory (entries : List (String × FileNode))
  | device

abbrev TreePath := List String

namespace FileNode

def setEntry (name : String) (node : FileNode) : List (String × FileNode) → List (String × FileNode)
  | [] => [(name, node)]
  | e :: rest => if e.1 == name then (name, node) :: rest else e :: setEntry name node rest

def entry? (name : String) : FileNode → Option FileNode
  | .directory entries => entries.lookup name
  | _ => none

def at? : TreePath → FileNode → Option FileNode
  | [], node => some node
  | name :: rest, node => (node.entry? name).bind (at? rest)

/-- Puts a node at a place; the directory that holds it must be there. -/
def put : FileNode → TreePath → FileNode → FileNode
  | _, [], new => new
  | .directory entries, name :: rest, new =>
    .directory (setEntry name (((entries.lookup name).getD (.directory [])).put rest new) entries)
  | node, _ :: _, _ => node

def isFile : FileNode → Bool
  | .file _ => true
  | _ => false

def isDirectory : FileNode → Bool
  | .directory _ => true
  | _ => false

end FileNode

structure FileTree where
  root : FileNode
  working : TreePath

namespace FileTree

/-- A tree with an empty working directory and the null device. -/
def bare : FileTree where
  root := .directory
    [("dev", .directory [("null", .device)]), ("work", .directory [])]
  working := ["work"]

/-- No name has more bytes. -/
def maxName : Nat := 255

/-- Every path has fewer bytes. -/
def pathLimit : Nat := 4096

def checkPath (p : Path) : Except OsError Unit :=
  if p.text.toList.contains '\x00' then .error .nulInName
  else if p.text.isEmpty then .error .notFound
  else if pathLimit ≤ p.text.utf8ByteSize then .error .nameTooLong
  else .ok ()

/-- Follows names from a place; only a directory has anything below it. -/
def follow (root : FileNode) : TreePath → List String → Except OsError TreePath
  | place, [] => .ok place
  | place, name :: rest =>
    match root.at? place with
    | some (.directory entries) =>
      if Path.isPassedOver name then follow root place rest
      else if name == ".." then follow root place.dropLast rest
      else if maxName < name.utf8ByteSize then .error .nameTooLong
      else if (entries.lookup name).isSome then follow root (place ++ [name]) rest
      else .error .notFound
    | _ => .error .notDirectory

def start (t : FileTree) (p : Path) : TreePath :=
  if p.isAbsolute then [] else t.working

def resolve (t : FileTree) (p : Path) : Except OsError TreePath := do
  checkPath p
  follow t.root (t.start p) p.names

def lookup (t : FileTree) (p : Path) : Except OsError FileNode := do
  let place ← t.resolve p
  match t.root.at? place with
  | some node => .ok node
  | none => .error .notFound

def contains (t : FileTree) (p : Path) : Bool :=
  (t.lookup p).toOption.isSome

def isFile (t : FileTree) (p : Path) : Bool :=
  (t.lookup p).toOption.any FileNode.isFile

def isDirectory (t : FileTree) (p : Path) : Bool :=
  (t.lookup p).toOption.any FileNode.isDirectory

def read (t : FileTree) (p : Path) : Except OsError ByteArray := do
  match ← t.lookup p with
  | .file contents => .ok contents
  | .directory _ => .error .isDirectory
  | .device => .ok .empty

/-- The place of the directory that holds what a path leads to, the last name, and whether slashes
follow it. There is no name if the path is made of slashes. -/
def holder (t : FileTree) (p : Path) : Except OsError (TreePath × Option String × Bool) := do
  checkPath p
  let names := p.names.reverse
  match names.dropWhile (· == "") with
  | [] => return ([], none, true)
  | name :: before =>
    let place ← follow t.root (t.start p) before.reverse
    if !(t.root.at? place).any FileNode.isDirectory then .error .notDirectory
    return (place, some name, names.head? == some "")

def isDots (name : String) : Bool :=
  name == "." || name == ".."

def createFile (t : FileTree) (p : Path) : Except OsError (TreePath × FileTree) := do
  match ← t.holder p with
  | (_, none, _) => .error .isDirectory
  | (place, some name, slashes) =>
    if isDots name || slashes then .error .isDirectory
    if maxName < name.utf8ByteSize then .error .nameTooLong
    let place := place ++ [name]
    match t.root.at? place with
    | some (.directory _) => .error .isDirectory
    | some .device => return (place, t)
    | _ => return (place, { t with root := t.root.put place (.file .empty) })

def append (t : FileTree) (place : TreePath) (more : ByteArray) : FileTree :=
  match t.root.at? place with
  | some (.file contents) => { t with root := t.root.put place (.file (contents ++ more)) }
  | _ => t

def writeFile (t : FileTree) (p : Path) (contents : ByteArray) : Except OsError FileTree := do
  let (place, t) ← t.createFile p
  return t.append place contents

def createDirectory (t : FileTree) (p : Path) : Except OsError FileTree := do
  match ← t.holder p with
  | (_, none, _) => .error .alreadyExists
  | (place, some name, _) =>
    if isDots name then .error .alreadyExists
    if maxName < name.utf8ByteSize then .error .nameTooLong
    let place := place ++ [name]
    match t.root.at? place with
    | some _ => .error .alreadyExists
    | none => return { t with root := t.root.put place (.directory []) }

/-- Creates a directory and, as far as they are missing, those above it. -/
def createDirectoriesFrom : Nat → FileTree → Path → Except OsError FileTree
  | 0, t, _ => .ok t
  | fuel + 1, t, p =>
    if p.text.isEmpty then .ok t
    else match t.createDirectory p with
      | .ok t => .ok t
      | .error .notFound => do
        let t ← createDirectoriesFrom fuel t p.parent
        match t.createDirectory p with
        | .ok t => .ok t
        | .error e => if t.isDirectory p then .ok t else .error e
      | .error e => if t.isDirectory p then .ok t else .error e

def createDirectories (t : FileTree) (p : Path) : Except OsError FileTree :=
  createDirectoriesFrom (p.names.length + 1) t p

end FileTree

end CryptoSurvey
