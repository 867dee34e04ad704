import RuleHost.Files.Path
import RuleHost.Table

/-! A tree of files and folders, and why a use of it can fail. A path starts at the root if it begins with a
slash, and at the working folder otherwise. The folder above the root is the root. -/

namespace RuleHost.Files

inductive FileError where
  | notFound | permissionDenied | alreadyExists | notFolder | isFolder
  /-- The content is no text in UTF-8. -/
  | notText
  | other (message : String)
deriving DecidableEq

def FileError.message : FileError → String
  | .notFound => "No such file or directory (os error 2)"
  | .permissionDenied => "Permission denied (os error 13)"
  | .alreadyExists => "File exists (os error 17)"
  | .notFolder => "Not a directory (os error 20)"
  | .isFolder => "Is a directory (os error 21)"
  | .notText => "stream did not contain valid UTF-8"
  | .other message => message

inductive Node where
  | file (content : ByteArray)
  | folder

/-- A place in the tree: the names that lead to it from the root. -/
abbrev Place := List String

structure Tree where
  nodes : Table Place Node := .empty
  working : Place := []

namespace Tree

def node? (tree : Tree) (place : Place) : Option Node :=
  if place.isEmpty then some .folder else tree.nodes.find? place

def put (tree : Tree) (place : Place) (node : Node) : Tree := { tree with nodes := tree.nodes.insert place node }

/-- Where a path starts. -/
def start (tree : Tree) (path : String) : Place :=
  match path.toList with
  | '/' :: _ => []
  | _ => tree.working

/-- Where one part of a path leads from a folder. -/
def next (place : Place) (part : String) : Place :=
  if isIdle part then place else if part == ".." then place.dropLast else place ++ [part]

/-- Follows the parts of a path. Each has to start from a folder; the last need not lead to anything. -/
def follow (tree : Tree) : Place → List String → Except FileError Place
  | place, [] => .ok place
  | place, part :: rest =>
    match tree.node? place with
    | none => .error .notFound
    | some (.file _) => .error .notFolder
    | some .folder => follow tree (next place part) rest

def find (tree : Tree) (path : String) : Except FileError Place :=
  if path == "" then .error .notFound else tree.follow (tree.start path) (parts path)

def contains (tree : Tree) (path : String) : Bool :=
  match tree.find path with
  | .ok place => (tree.node? place).isSome
  | .error _ => false

def read (tree : Tree) (path : String) : Except FileError ByteArray := do
  match tree.node? (← tree.find path) with
  | none => throw .notFound
  | some .folder => throw .isFolder
  | some (.file content) => return content

/-- Writes a file anew. The folder that it lies in has to be there, and its name is not followed by a
slash. -/
def write (tree : Tree) (path : String) (content : ByteArray) : Except FileError Tree := do
  let slash := path.toList.getLast? == some '/'
  let place ← if slash then tree.follow (tree.start path) (parts (folderOf path) ++ ["."]) else tree.find path
  match tree.node? place with
  | some .folder => throw .isFolder
  | _ => return tree.put place (.file content)

/-- Adds the folders on a path that are not there. -/
def addFolders : Place → List String → Tree → Except FileError Tree
  | _, [], tree => .ok tree
  | place, part :: rest, tree =>
    let place := next place part
    match tree.node? place with
    | some .folder => addFolders place rest tree
    | some (.file _) => .error (if rest.isEmpty then .alreadyExists else .notFolder)
    | none => addFolders place rest (tree.put place .folder)

def makeFolders (tree : Tree) (path : String) : Except FileError Tree :=
  match tree.node? (tree.start path) with
  | some .folder => addFolders (tree.start path) (parts path) tree
  | _ => .error .notFound

/-- Removes what is at a path and everything below it. -/
def remove (tree : Tree) (path : String) : Tree :=
  match tree.find path with
  | .error _ => tree
  | .ok place => { tree with nodes := (tree.nodes.keys.filter (place.isPrefixOf ·)).foldl Table.erase tree.nodes }

end Tree
end RuleHost.Files
