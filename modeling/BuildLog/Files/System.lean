import BuildLog.Numeral
import BuildLog.Record
import BuildLog.Text.Basic

/-!
# Paths and file systems

What the program knows of files: how paths are joined, what can be asked of a file system, and where
a printed path is looked for.
-/

set_option autoImplicit false

/-! ## Paths

A path is a text with slashes between its components.  Joining changes nothing but the one slash
that may have to stand between the two sides.
-/

namespace BuildLog.Path

open Text

def isAbsolute (path : Text) : Bool :=
  startsWith ['/'] path

/-- A path seen from a folder.  An absolute path stays as it is, and the empty path leaves a slash
behind the folder. -/
def join (folder path : Text) : Text :=
  if isAbsolute path then path
  else if folder = [] || endsWith ['/'] folder then folder ++ path
  else folder ++ '/' :: path

/-- The components of a path, with an empty one for each slash at an end or next to another. -/
def components (path : Text) : List Text :=
  path.splitOn '/'

def byteLength (t : Text) : Nat :=
  t.foldl (fun length c => length + c.utf8Size) 0

end BuildLog.Path

/-! ## File systems

All that the program asks of a file system: the bytes of a file, and whether a path leads to
something.  The questions are asked in some monad, so that a tree of files in memory can answer as
well as the disk.
-/

namespace BuildLog

inductive ReadError where
  | notFound
  | permissionDenied
  | notADirectory
  | isADirectory
  | nameTooLong
  | nulInName
  | notUtf8
  | other (description : Text)
  deriving DecidableEq

namespace ReadError

def numbered (description : String) (code : Nat) : Text :=
  description.toList ++ " (os error ".toList ++ Numeral.render code ++ ")".toList

def message : ReadError → Text
  | notFound => numbered "No such file or directory" 2
  | permissionDenied => numbered "Permission denied" 13
  | notADirectory => numbered "Not a directory" 20
  | isADirectory => numbered "Is a directory" 21
  | nameTooLong => numbered "File name too long" 36
  | nulInName => "file name contained an unexpected NUL byte".toList
  | notUtf8 => "stream did not contain valid UTF-8".toList
  | other description => description

end ReadError

def decode (bytes : ByteArray) : Except ReadError Text :=
  match String.fromUTF8? bytes with
  | some text => .ok text.toList
  | none => .error .notUtf8

structure FileSystem (m : Type → Type) where
  read : Text → m (Except ReadError ByteArray)
  leadsSomewhere : Text → m Bool

end BuildLog

/-! ## Resolving files against a folder

Build tools print paths from wherever they ran.  A path that leads nowhere from the working
directory is looked for in the project folder, and is kept when it leads nowhere there either.
Paths and folders are texts here; a folder whose name is no text in UTF-8 is left out.
-/

namespace BuildLog.Resolution

variable {m : Type → Type} [Monad m]

/-- A path that leads somewhere, if the folder helps to find one. -/
def resolveUri (files : FileSystem m) (folder uri : Text) : m Text := do
  if Path.isAbsolute uri then return uri
  if ← files.leadsSomewhere uri then return uri
  let joined := Path.join folder uri
  if ← files.leadsSomewhere joined then return joined
  return uri

def resolveRecord (files : FileSystem m) (folder : Text) (record : Record) : m Record := do
  let uri ← resolveUri files folder record.uri
  return { record with uri }

def resolveRecords (files : FileSystem m) (folder : Text) (records : List Record) :
    m (List Record) :=
  records.mapM (resolveRecord files folder)

end BuildLog.Resolution
