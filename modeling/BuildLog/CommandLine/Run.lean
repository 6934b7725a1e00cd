import BuildLog.CommandLine.Arguments
import BuildLog.Files.System
import BuildLog.Settings.Sources

/-!
# Running the program

The settings are loaded first, then the folder is told, then the input is read, then records are
extracted and printed.  When nothing is found the input is given back as it came, so that a caller
never loses it.
-/

set_option autoImplicit false

namespace BuildLog.CommandLine

variable {m : Type → Type} [Monad m]

structure World (m : Type → Type) where
  files : FileSystem m
  environment : Environment
  directory : Except ReadError Text
  standardInput : m (Except ReadError ByteArray)

inductive Refusal where
  | usage (error : UsageError)
  | unreadableConfig (path : Text) (error : ReadError)
  | invalidConfig (path : Text)
  | unreadableDirectory (error : ReadError)
  | unreadableInput (path : Text) (error : ReadError)
  | unreadableStandardInput (error : ReadError)

def Refusal.message : Refusal → Text
  | usage error => "errscan: ".toList ++ error.message
  | unreadableConfig path error =>
    "errscan: Failed to read config ".toList ++ path ++ ": ".toList ++ error.message
  | invalidConfig path =>
    "errscan: Failed to parse config ".toList ++ path ++ ": Invalid errscan TOML".toList
  | unreadableDirectory error =>
    "errscan: Failed to read current directory: ".toList ++ error.message
  | unreadableInput path error =>
    "errscan: Failed to read ".toList ++ path ++ ": ".toList ++ error.message
  | unreadableStandardInput error => "errscan: Failed to read stdin: ".toList ++ error.message

inductive Outcome where
  | found (output : Text)
  | nothing (input : Text)
  | refused (refusal : Refusal)

namespace Outcome

def status : Outcome → Nat
  | found _ => 0
  | nothing _ => 1
  | refused _ => 2

def output : Outcome → Text
  | found output => output
  | _ => []

def complaint : Outcome → Text
  | found _ => []
  | nothing input => input
  | refused refusal => refusal.message ++ ['\n']

end Outcome

def loadSettings (world : World m) : Option Text → m (Except Refusal Settings)
  | none => return .ok world.environment.settings
  | some path => do
    match (← world.files.read path).bind decode with
    | .error error => return .error (.unreadableConfig path error)
    | .ok content =>
      match Settings.ofTomlText? content with
      | none => return .error (.invalidConfig path)
      | some settings => return .ok settings

def folderOf (world : World m) : Option Text → Except Refusal Text
  | none => world.directory.mapError .unreadableDirectory
  | some folder => .ok folder

def readInput (world : World m) : Option Text → m (Except Refusal Text)
  | none => return ((← world.standardInput).bind decode).mapError .unreadableStandardInput
  | some path => return ((← world.files.read path).bind decode).mapError (.unreadableInput path)

/-- What is printed of an extraction.  The summary counts files as the build printed them. -/
def report (world : World m) (arguments : Arguments) (folder : Text) (extraction : Extraction) :
    m Text := do
  let records ←
    if arguments.resolve then Resolution.resolveRecords world.files folder extraction.records
    else pure extraction.records
  let listing := (arguments.report.getD .text).render records
  let summary :=
    if arguments.summary then (Summary.ofExtraction extraction).compact ++ ['\n'] else []
  return listing ++ summary

def execute (world : World m) (arguments : Arguments) : m Outcome := do
  match ← loadSettings world arguments.config with
  | .error refusal => return .refused refusal
  | .ok settings =>
    match folderOf world arguments.folder with
    | .error refusal => return .refused refusal
    | .ok folder =>
      match ← readInput world arguments.input with
      | .error refusal => return .refused refusal
      | .ok text =>
        let extraction := Extraction.ofCapture settings ⟨text, [], folder⟩
        if extraction.diagnostics.isEmpty then return .nothing text
        else return .found (← report world arguments folder extraction)

def run (world : World m) (arguments : List Text) : m Outcome :=
  match Arguments.read arguments with
  | .error error => return .refused (.usage error)
  | .ok arguments => execute world arguments

end BuildLog.CommandLine
