import Rotorcraft.Files
import Rotorcraft.Text.Blank

/-! # File trees

A tree of files and directories around a current directory. Paths are followed one name at a time,
as an operating system does it. The directories above the current one are there, and so is the root
with the directories that every system has, but nothing in them is known but what is put there.
-/

namespace Rotorcraft

/-- A file with its bytes, or a directory. -/
inductive FileEntry where
  | file (bytes : List UInt8)
  | directory
deriving DecidableEq, Repr

/-- The entries by their places: the names that lead there from the current directory, of which the
first ones may go up, or, behind a slash, from the root. -/
structure FileTree where
  entries : List (List String × FileEntry) := []
deriving DecidableEq, Repr

namespace FileTree

/-- Whether a place is the current directory or one above it. -/
def isAncestor (place : List String) : Bool :=
  place.all (· == "..")

/-- The names of the directories that every root has. -/
def systemNames : List String :=
  ["bin", "boot", "dev", "etc", "home", "lib", "media", "mnt", "opt", "proc", "root", "run", "sbin",
    "srv", "sys", "tmp", "usr", "var"]

/-- Whether a place is the root or one of the directories that every root has. -/
def isSystem : List String → Bool
  | ["/"] => true
  | ["/", name] => systemNames.contains name
  | _ => false

def entry? (tree : FileTree) (place : List String) : Option FileEntry :=
  if isAncestor place || isSystem place then some .directory else tree.entries.lookup place

def put (tree : FileTree) (place : List String) (entry : FileEntry) : FileTree :=
  ⟨(place, entry) :: tree.entries.filter fun other => other.1 != place⟩

/-- The place of the directory above; nothing is above the root. -/
def above (place : List String) : List String :=
  if isAncestor place then ".." :: place
  else if place = ["/"] then place
  else place.dropLast

/-- The parts of a path; a slash at the end makes an empty last part, and one at the beginning is a
part of its own. -/
def parts (path : String) : List String :=
  let names := (Text.splitAt '/' path.toList).map String.ofList
  if path.toList.head? = some '/' then "/" :: names else names

/-- The parts of a path that lead to another place. -/
def namedParts (path : String) : List String :=
  (parts path).filter fun part => part != "" && part != "."

def checkName (name : String) : Except FileError Unit :=
  if 255 < name.utf8ByteSize then .error .nameTooLong else .ok ()

def checkPath (path : String) : Except FileError Unit :=
  if path.toList.contains '\x00' then .error .nulInName
  else if path.isEmpty then .error .notFound
  else if 4095 < path.utf8ByteSize then .error .nameTooLong
  else .ok ()

/-- Follows the parts of a path from a place, all of which but the last have to be directories. -/
def follow (tree : FileTree) (place : List String) : List String → Except FileError (List String)
  | [] => .ok place
  | part :: rest =>
    match tree.entry? place with
    | none => .error .notFound
    | some (.file _) => .error .notADirectory
    | some .directory => do
      checkName part
      if part = "" ∨ part = "." then follow tree place rest
      else if part = "/" then follow tree ["/"] rest
      else if part = ".." then follow tree (above place) rest
      else follow tree (place ++ [part]) rest

def place (tree : FileTree) (path : String) : Except FileError (List String) := do
  checkPath path
  follow tree [] (parts path)

def find (tree : FileTree) (path : String) : Except FileError FileEntry := do
  match tree.entry? (← tree.place path) with
  | some entry => .ok entry
  | none => .error .notFound

def read (tree : FileTree) (path : String) : Except FileError (List UInt8) := do
  match ← tree.find path with
  | .file bytes => .ok bytes
  | .directory => .error .isADirectory

/-- What a command can learn about the files of a tree. -/
def toFiles (tree : FileTree) : Files where
  read := tree.read
  isFile path := match tree.find path with
    | .ok (.file _) => true
    | _ => false
  isPresent path := match tree.find path with
    | .ok _ => true
    | _ => false

def isDirectory (tree : FileTree) (parts : List String) : Bool :=
  match tree.follow [] parts with
  | .ok place => tree.entry? place == some .directory
  | .error _ => false

/-- Makes one directory, above which everything has to be there. -/
def makeDirectory (tree : FileTree) (parts : List String) : Except FileError FileTree := do
  let place ← tree.follow [] parts
  match tree.entry? place with
  | some _ => .error .alreadyExists
  | none => .ok (tree.put place .directory)

/-- What comes of making a directory, which may be there already. -/
def settle (tree : FileTree) (parts : List String) :
    Except FileError FileTree → Except FileError FileTree
  | .ok made => .ok made
  | .error error => if tree.isDirectory parts then .ok tree else .error error

/-- Makes a directory, given by its parts from the last to the first. Where something above it is
missing, makes the directory in front of its last part and tries once more. -/
def makeMissing (tree : FileTree) : List String → Except FileError FileTree
  | [] => .ok tree
  | last :: parents =>
    let parts := (last :: parents).reverse
    match tree.makeDirectory parts with
    | .error .notFound => do
      let tree ← tree.makeMissing parents
      tree.settle parts (tree.makeDirectory parts)
    | made => tree.settle parts made

def makeDirectories (tree : FileTree) (path : String) : Except FileError FileTree := do
  checkPath path
  tree.makeMissing (namedParts path).reverse

def write (tree : FileTree) (path : String) (bytes : List UInt8) : Except FileError FileTree := do
  let place ← tree.place path
  match tree.entry? place, tree.entry? place.dropLast with
  | some .directory, _ => .error .isADirectory
  | _, some .directory => .ok (tree.put place (.file bytes))
  | _, _ => .error .notFound

/-- Adds a directory and all directories above it, where nothing is in the way. -/
def layDirectory (tree : FileTree) (path : String) : FileTree :=
  (tree.makeDirectories path).toOption.getD tree

/-- Adds a file and all directories above it, where nothing is in the way. -/
def layFile (tree : FileTree) (file : String × List UInt8) : FileTree :=
  let tree := tree.layDirectory (Path.directoryOf file.1)
  (tree.write file.1 file.2).toOption.getD tree

def ofPaths (directories : List String) (files : List (String × List UInt8)) : FileTree :=
  files.foldl layFile (directories.foldl layDirectory {})

end FileTree
end Rotorcraft
