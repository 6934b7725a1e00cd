import BuildLog.Files.System

/-!
# File trees

A tree of files in memory, seen from a working directory.  Nothing is known of what lies outside the
directory, except that there are directories above it.
-/

set_option autoImplicit false

namespace BuildLog

open Text

namespace FileTree

inductive Entry where
  | directory
  | file (content : ByteArray)

inductive Place where
  /-- The place that components lead to from the working directory. -/
  | inside (components : List Text)
  /-- A directory that is not below the working directory. -/
  | outside
  deriving DecidableEq

end FileTree

/-- The files and directories below a working directory, each with the components that lead to it.
The directories on the way need not be listed. -/
structure FileTree where
  entries : List (List Text × FileTree.Entry) := []

namespace FileTree

/-- The tree of files by their paths; a path that ends in a slash makes a directory. -/
def ofFiles (files : List (Text × ByteArray)) : FileTree where
  entries := files.map fun file =>
    ((Path.components file.1).filter fun name => name ≠ [] && name ≠ ['.'],
      if endsWith ['/'] file.1 then .directory else .file file.2)

def entry? (tree : FileTree) : Place → Option Entry
  | .outside => some .directory
  | .inside path =>
    match tree.entries.lookup path with
    | some entry => some entry
    | none =>
      if path = [] || tree.entries.any fun listed => path.isPrefixOf listed.1 then some .directory
      else none

def nameLimit : Nat := 255

def pathLimit : Nat := 4096

def enter (place : Place) (name : Text) : Place :=
  match place with
  | .outside => .outside
  | .inside path =>
    if name = "..".toList then if path = [] then .outside else .inside path.dropLast
    else .inside (path ++ [name])

/-- Goes from a place along a component.  Only from a directory does any component lead on. -/
def step (tree : FileTree) (place : Place) (name : Text) : Except ReadError Place :=
  match tree.entry? place with
  | none => .error .notFound
  | some (.file _) => .error .notADirectory
  | some .directory =>
    if name = [] ∨ name = ['.'] then .ok place
    else if name = "..".toList then .ok (enter place name)
    else if nameLimit < Path.byteLength name then .error .nameTooLong
    else if place = .outside then .error .notFound
    else if (tree.entry? (enter place name)).isNone then .error .notFound
    else .ok (enter place name)

def follow (tree : FileTree) (path : Text) : Except ReadError Place :=
  if '\x00' ∈ path then .error .nulInName
  else if path = [] then .error .notFound
  else if pathLimit ≤ Path.byteLength path then .error .nameTooLong
  else
    (Path.components path).foldlM tree.step (if Path.isAbsolute path then .outside else .inside [])

def read (tree : FileTree) (path : Text) : Except ReadError ByteArray :=
  (tree.follow path).bind fun place =>
    match tree.entry? place with
    | some (.file content) => .ok content
    | some .directory => .error .isADirectory
    | none => .error .notFound

def leadsSomewhere (tree : FileTree) (path : Text) : Bool :=
  (tree.follow path).isOk

def system (tree : FileTree) : FileSystem Id where
  read path := tree.read path
  leadsSomewhere path := tree.leadsSomewhere path

end FileTree

end BuildLog
