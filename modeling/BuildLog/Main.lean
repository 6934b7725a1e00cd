import BuildLog.CommandLine.Run

/-!
# The program

The command line on the real file system.  Everything that is decided, is decided elsewhere; this
module reads bytes and writes the outcome.
-/

set_option autoImplicit false

namespace BuildLog.Main

def errorNumber (code : UInt32) : Nat :=
  if code.toNat < 0x80000000 then code.toNat else UInt32.size - code.toNat

def causeOf (error : IO.Error) : ReadError :=
  match error with
  | .noFileOrDirectory .. => .notFound
  | .permissionDenied .. => .permissionDenied
  | .inappropriateType _ code _ => byNumber (errorNumber code)
  | .invalidArgument _ code _ => byNumber (errorNumber code)
  | error => .other error.toString.toList
where
  byNumber : Nat → ReadError
    | 20 => .notADirectory
    | 21 => .isADirectory
    | 36 => .nameTooLong
    | _ => .other error.toString.toList

def readBytes (read : IO ByteArray) : IO (Except ReadError ByteArray) := do
  return (← read.toBaseIO).mapError causeOf

def disk : FileSystem IO where
  read path := readBytes (IO.FS.readBinFile ⟨String.ofList path⟩)
  leadsSomewhere path := do
    match ← (IO.FS.realPath ⟨String.ofList path⟩).toBaseIO with
    | .ok _ => return true
    | .error _ => return false

def valueOf? (key : Settings.Key) : IO (Option Text) := do
  match Environment.nameOf? key with
  | none => return none
  | some name => return (← IO.getEnv (String.ofList name)).map String.toList

def world : IO (CommandLine.World IO) := do
  let environment : Environment := {
    xcodeSentinel := ← valueOf? .xcodeSentinel
    xcodeContextSkip := ← valueOf? .xcodeContextSkip
    jasmineMaxMessage := ← valueOf? .jasmineMaxMessage }
  let directory ← IO.currentDir.toBaseIO
  let input ← IO.getStdin
  return {
    files := disk
    environment
    directory := (directory.map fun path => path.toString.toList).mapError causeOf
    standardInput := readBytes (readAll input) }
where
  readAll (stream : IO.FS.Stream) : IO ByteArray := do
    let mut bytes := ByteArray.empty
    repeat
      let chunk ← stream.read 65536
      if chunk.isEmpty then break
      bytes := bytes ++ chunk
    return bytes

end BuildLog.Main

def main (arguments : List String) : IO UInt32 := do
  let world ← BuildLog.Main.world
  let outcome ← BuildLog.CommandLine.run world (arguments.map String.toList)
  IO.print (String.ofList outcome.output)
  IO.eprint (String.ofList outcome.complaint)
  return outcome.status.toUInt32
