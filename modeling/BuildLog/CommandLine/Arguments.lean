import BuildLog.Report

/-!
# Arguments of the command line

Options take a value, as `--input FILE` or `--input=FILE`; flags take none.  Each may be given once,
and nothing else may be given.
-/

set_option autoImplicit false

namespace BuildLog.CommandLine

open Text

inductive ValueOption where
  | input
  | folder
  | format
  | config
  deriving DecidableEq

inductive Flag where
  | resolve
  | summary
  deriving DecidableEq

def ValueOption.ofName? (name : Text) : Option ValueOption :=
  if name = "input".toList then some input
  else if name = "folder".toList then some folder
  else if name = "format".toList then some format
  else if name = "config".toList then some config
  else none

def Flag.ofName? (name : Text) : Option Flag :=
  if name = "resolve".toList then some resolve
  else if name = "summary".toList then some summary
  else none

inductive UsageError where
  | unknown (argument : Text)
  | missingValue (argument : Text)
  | invalidValue (argument value : Text)
  | unexpectedValue (argument : Text)
  | repeated (argument : Text)

def UsageError.message : UsageError → Text
  | unknown argument => "unexpected argument '".toList ++ argument ++ "'".toList
  | missingValue argument => "'".toList ++ argument ++ "' needs a value".toList
  | invalidValue argument value =>
    "invalid value '".toList ++ value ++ "' for '".toList ++ argument ++ "'".toList
  | unexpectedValue argument => "'".toList ++ argument ++ "' takes no value".toList
  | repeated argument => "'".toList ++ argument ++ "' is given twice".toList

structure Arguments where
  /-- The file with the captured output; the standard input when there is none. -/
  input : Option Text := none
  /-- The project folder; the working directory when there is none. -/
  folder : Option Text := none
  report : Option Report := none
  /-- The file with the settings; the environment when there is none. -/
  config : Option Text := none
  resolve : Bool := false
  summary : Bool := false
  deriving DecidableEq

namespace Arguments

def path (argument value : Text) (given : Option Text) : Except UsageError (Option Text) :=
  if given.isSome then .error (.repeated argument)
  else if value = [] then .error (.invalidValue argument value)
  else .ok (some value)

def setOption (arguments : Arguments) (argument value : Text) :
    ValueOption → Except UsageError Arguments
  | .input => do return { arguments with input := ← path argument value arguments.input }
  | .folder => do return { arguments with folder := ← path argument value arguments.folder }
  | .config => do return { arguments with config := ← path argument value arguments.config }
  | .format =>
    if arguments.report.isSome then .error (.repeated argument)
    else
      match Report.ofName? value with
      | none => .error (.invalidValue argument value)
      | some report => .ok { arguments with report := some report }

def setFlag (arguments : Arguments) (argument : Text) : Flag → Except UsageError Arguments
  | .resolve =>
    if arguments.resolve then .error (.repeated argument)
    else .ok { arguments with resolve := true }
  | .summary =>
    if arguments.summary then .error (.repeated argument)
    else .ok { arguments with summary := true }

/-- Whether an argument looks like an option; a dash alone does not. -/
def looksLikeOption (argument : Text) : Bool :=
  startsWith ['-'] argument && argument ≠ ['-']

def nameAndValue (body : Text) : Text × Option Text :=
  match cut? ['='] body with
  | some (name, value) => (name, some value)
  | none => (body, none)

/-- Reads arguments on top of those that have been read.  Two dashes alone may end them. -/
def readFrom (arguments : Arguments) : List Text → Except UsageError Arguments
  | [] => .ok arguments
  | argument :: rest =>
    match after? "--".toList argument with
    | none => .error (.unknown argument)
    | some [] =>
      match rest with
      | [] => .ok arguments
      | extra :: _ => .error (.unknown extra)
    | some body =>
      let (name, value) := nameAndValue body
      match ValueOption.ofName? name, Flag.ofName? name, value with
      | some option, _, some value => do
        let arguments ← arguments.setOption argument value option
        readFrom arguments rest
      | some option, _, none =>
        match rest with
        | [] => .error (.missingValue argument)
        | value :: rest => do
          if looksLikeOption value then .error (.missingValue argument)
          else
            let arguments ← arguments.setOption argument value option
            readFrom arguments rest
      | none, some flag, none => do
        let arguments ← arguments.setFlag argument flag
        readFrom arguments rest
      | none, some _, some _ => .error (.unexpectedValue argument)
      | none, none, _ => .error (.unknown argument)

def read (arguments : List Text) : Except UsageError Arguments :=
  readFrom {} arguments

end Arguments

end BuildLog.CommandLine
