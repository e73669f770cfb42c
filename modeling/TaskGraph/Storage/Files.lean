import TaskGraph.Storage.Path
import TaskGraph.Text.Utf8
set_option autoImplicit false

/-! A tree of files as a value. A path is followed from the current directory or from the root, one
component after the other, through directories that exist. -/

namespace TaskGraph

/-- Where a place is counted from: the root, or a directory some levels above the current one. -/
inductive Base where
  | root
  | above (levels : Nat)
deriving DecidableEq

structure Location where
  base : Base
  names : List String
deriving DecidableEq

inductive Entry where
  | file (content : List UInt8)
  | directory
deriving DecidableEq

/-- The files and directories of a tree. The bases and all directories
above them are there without being listed. -/
structure FileTree where
  entries : List (Location × Entry)
deriving DecidableEq

/-- Why a place cannot be used. `tooLong` is a name or a path with too many bytes, `broken` a path
with a character that ends texts. -/
inductive StorageError where
  | missing
  | notDirectory
  | isDirectory
  | occupied
  | tooLong
  | broken
deriving DecidableEq

def mostNameBytes : Nat := 255

def mostPathBytes : Nat := 4095

namespace Location

def step (place : Location) (part : String) : Location :=
  if part ≠ ".." then { place with names := place.names ++ [part] }
  else if !place.names.isEmpty then { place with names := place.names.dropLast }
  else match place.base with
    | .root => place
    | .above levels => { place with base := .above (levels + 1) }

def path (place : Location) : Path :=
  match place.base with
  | .root => ⟨"/", place.names⟩
  | .above levels => ⟨"", List.replicate levels ".." ++ place.names⟩

end Location

namespace FileTree

def entry? (tree : FileTree) (place : Location) : Option Entry :=
  if place.names.isEmpty then some .directory else tree.entries.lookup place

def follow (tree : FileTree) (place : Location) : List String → Except StorageError Location
  | [] => .ok place
  | part :: rest =>
      match tree.entry? place with
      | some .directory =>
          if mostNameBytes < part.utf8ByteSize then .error .tooLong
            else follow tree (place.step part) rest
      | some (.file _) => .error .notDirectory
      | none => .error .missing

def locate (tree : FileTree) (path : Path) : Except StorageError Location :=
  if path.text.toList.contains '\x00' then .error .broken
  else if mostPathBytes < path.text.utf8ByteSize then .error .tooLong
  else tree.follow ⟨if path.root.isEmpty then .above 0 else .root, []⟩ path.parts

def find? (tree : FileTree) (path : Path) : Option Entry :=
  match tree.locate path with
  | .ok place => tree.entry? place
  | .error _ => none

def content? (tree : FileTree) (path : Path) : Except StorageError (Option (List UInt8)) :=
  match tree.locate path with
  | .error .tooLong => .error .tooLong
  | .error _ => .ok none
  | .ok place => match tree.entry? place with
      | none => .ok none
      | some .directory => .error .isDirectory
      | some (.file content) => .ok (some content)

def putAt (place : Location) (entry : Entry) (tree : FileTree) : FileTree :=
  if tree.entries.any fun old => old.1 = place then
    ⟨tree.entries.map fun old => if old.1 = place then (place, entry) else old⟩
  else ⟨tree.entries ++ [(place, entry)]⟩

/-- Makes one directory, whose parent must be there. A directory
that is there already stays as it is. -/
def makeDirectory (tree : FileTree) (path : Path) : Except StorageError FileTree :=
  match tree.locate path with
  | .error cause => .error cause
  | .ok place => match tree.entry? place with
      | some .directory => .ok tree
      | some (.file _) => .error .occupied
      | none => .ok (tree.putAt place .directory)

/-- Makes a directory, given by its components with the last one first, and those above it that are
missing. What was made before a failure stays. -/
def makeDirectories (tree : FileTree) (root : String) : List String →
    FileTree × Except StorageError Unit
  | [] => (tree, .ok ())
  | part :: above =>
      let path : Path := ⟨root, (part :: above).reverse⟩
      match tree.makeDirectory path with
      | .ok tree => (tree, .ok ())
      | .error .missing => match makeDirectories tree root above with
          | (tree, .error cause) => (tree, .error cause)
          | (tree, .ok ()) => match tree.makeDirectory path with
              | .ok tree => (tree, .ok ())
              | .error cause => (tree, .error cause)
      | .error cause => (tree, .error cause)

def makePath (tree : FileTree) (path : Path) : FileTree × Except StorageError Unit :=
  tree.makeDirectories path.root path.parts.reverse

def writeAt (tree : FileTree) (path : Path) (content : List UInt8) : Except StorageError FileTree :=
  match tree.locate path with
  | .error cause => .error cause
  | .ok place => match tree.entry? place with
      | some .directory => .error .isDirectory
      | _ => .ok (tree.putAt place (.file content))

def write (tree : FileTree) (path : Path) (content : List UInt8) :
    FileTree × Except StorageError Unit :=
  match tree.makePath path.parent with
  | (tree, .error cause) => (tree, .error cause)
  | (tree, .ok ()) => match tree.writeAt path content with
      | .error cause => (tree, .error cause)
      | .ok tree => (tree, .ok ())

def ofList (files : List (Path × Entry)) : FileTree :=
  files.foldl (fun tree (path, entry) => match entry with
    | .file content => (tree.write path content).1
    | .directory => (tree.makePath path).1) ⟨[]⟩

def changesSince (older newer : FileTree) : List (Path × Entry) :=
  (newer.entries.filter fun entry => !older.entries.contains entry).map fun entry =>
    (entry.1.path, entry.2)

def textOf (content : List UInt8) : Option (List Char) :=
  (Text.decodeUtf8? content).map Text.unifyLineEnds

end FileTree
end TaskGraph
