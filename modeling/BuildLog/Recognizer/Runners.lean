import BuildLog.Recognizer.Parts
import BuildLog.Settings
import BuildLog.Text.Characters

/-!
# Linters, test runners and bundlers

Tools that run other tools print a report: a header and what belongs to it, over several lines.
-/

set_option autoImplicit false

/-! ## Lint reports

A lint report names a file on a line of its own and lists the problems of that file below it, one a
line, as `13:1  error Unexpected console statement`.  A short report of a single problem says
`Error:` instead and stands at the top of the output.
-/

namespace BuildLog.Lint

open Text

structure Entry where
  line : Text
  column : Text
  message : Text
  deriving DecidableEq

def afterBlanks? : Text → Option Text
  | c :: t => if isBlank c then some (trimStart t) else none
  | [] => none

def digits? (t : Text) : Option (Text × Text) :=
  if t.takeWhile isDecimalDigit = [] then none
  else some (t.takeWhile isDecimalDigit, t.dropWhile isDecimalDigit)

def afterSeverity? (t : Text) : Option Text :=
  (after? "error".toList t).or (after? "warning".toList t)

/-- The entry in a trimmed line.  Its message runs to the end of the text and stays in one line. -/
def Entry.read? (t : Text) : Option Entry := do
  let (line, t) ← digits? t
  let t ← after? [':'] t
  let (column, t) ← digits? t
  let t ← afterBlanks? t
  let t ← afterSeverity? t
  let message ← afterBlanks? t
  if message = [] ∨ '\n' ∈ message then none else some ⟨line, column, message⟩

def readEntry (format : Format) (file line : Text) : Attempt :=
  match Entry.read? line with
  | none => .error (.noMatch format)
  | some entry => do
    let (line, column) ← Location.numbers format entry.line entry.column
    Diagnostic.ofOneBased format file line column entry.message

def errorLabel : Text := "Error:".toList

/-- Reads a short report: the file on the second line, `12:5  Error: message` on the third. -/
def readReport : List Text → Attempt
  | _ :: path :: detail :: _ =>
    match cut? errorLabel (trim detail) with
    | none => .error (.unrecognized .lintStyle "line 2 has no Error: label".toList)
    | some (place, message) =>
      match cut? [':'] (trim place) with
      | none => .error (.unrecognized .lintStyle "expected line:col before Error:".toList)
      | some (line, column) => do
        let (line, column) ← Location.numbers .lintStyle line column
        Diagnostic.ofOneBased .lintStyle path line column message
  | _ => .error (.unrecognized .lintStyle "input too short".toList)

end BuildLog.Lint

/-! ## Test runners

One runner prints an `Error:` line and a stack frame below it, the other the file of a failed suite
and the title of a test below it.
-/

namespace BuildLog.TestRunner

open Text

/-! ### Stack traces -/

def shorten (settings : Settings) (message : Text) : Text :=
  let message := trim message
  if message.length ≤ settings.jasmineMaxMessage then message
  else
    message.take settings.jasmineHead ++ "...".toList ++
      message.drop (message.length - settings.jasmineTail)

/-- The message of an `Error:` line outside the project folder. -/
def errorMessage? (settings : Settings) (folder line : Text) : Option Text :=
  if Folder.names folder line then none
  else
    (cut? "Error:".toList line).map fun sides => shorten settings (CodeLabel.strip sides.2)

/-- Reads the stack frame below a message; a frame of the runner itself does not count. -/
def readFrame (message frame : Text) : Attempt :=
  if occursIn "<Jasmine>".toList frame then
    .error (.unrecognized .jasmine "frame is inside jasmine itself".toList)
  else
    match Location.lastGroup? frame with
    | none => .error (.unrecognized .jasmine "no (path:line:col)".toList)
    | some (_, inside) => do
      let place ← Location.read .jasmine inside
      Diagnostic.atLocation .jasmine place message

/-! ### Suites -/

/-- What follows digits and, when there is one, a point with digits after it. -/
def afterDuration? (t : Text) : Option Text :=
  if t.takeWhile isDecimalDigit = [] then none
  else
    match t.dropWhile isDecimalDigit with
    | '.' :: fraction =>
      if fraction.takeWhile isDecimalDigit = [] then none
      else some (fraction.dropWhile isDecimalDigit)
    | rest => some rest

/-- Whether a text is a duration in parentheses, with blanks in front of it, up to its end. -/
def isTiming (t : Text) : Bool :=
  match (after? ['('] (trimStart t)).bind afterDuration? with
  | none => false
  | some rest => trimStart rest = "s)".toList || trimStart rest = "ms)".toList

def suite? (line : Text) : Option Text :=
  (after? "FAIL ".toList line).map fun suite => cutBefore isTiming (trim suite)

/-- Reads the title of a failed test.  The runner prints no coordinates, so the record stands at the
start of the file. -/
def readTitle (path title : Text) : Attempt :=
  let title := trim title
  Diagnostic.ofZeroBased .jest path 0 0 ((after? ['●'] title).getD title)

end BuildLog.TestRunner

/-! ## Bundler blocks

A bundler prints one error as a block of several lines, with the message first and the place some
lines below it.
-/

namespace BuildLog.Bundler

open Text

def errorMark : Text := "✘ [ERROR]".toList

/-- Whether a text is a plugin's name in brackets, with blanks around it, up to its end. -/
def isPluginTag (t : Text) : Bool :=
  match after? "[plugin ".toList (trimStart t) with
  | none => false
  | some name =>
    match name.dropWhile (· ≠ ']') with
    | [] => false
    | _ :: rest => isBlankLine rest

/-- The message in a header line: the mark, the code and the plugin's name are left out. -/
def headerMessage (header : Text) : Text :=
  let t := trim header
  CodeLabel.strip (cutBefore isPluginTag ((after? errorMark t).getD t))

/-- Reads a block that starts the output: the message on the first two lines, the place on the
fourth. -/
def readBlock : List Text → Attempt
  | header :: more :: _ :: place :: _ => do
    let place ← Location.read .esbuild place
    Diagnostic.atLocation .esbuild place (spaced (headerMessage header) (trim more))
  | _ => .error (.unrecognized .esbuild "input too short".toList)

/-- Reads the place of a block whose header stood two lines above it. -/
def readNested (message place : Text) : Attempt := do
  let place ← Location.read .viteBlock place
  Diagnostic.atLocation .viteBlock place message

def nestedHeader? (line : Text) : Option Text :=
  (after? (errorMark ++ [' ']) line).map fun _ => headerMessage line

/-! ### Compilation reports -/

def withoutBullet (t : Text) : Text :=
  let t := trim t
  trim (((after? "x ".toList t).or (after? "×".toList t)).getD t)

/-- The lines above the first one that holds a location marker, and what follows the marker's
opening bracket. -/
def cutMarker? : List Text → Option (List Text × Text)
  | [] => none
  | line :: lines =>
    match cut? ",-[".toList line with
    | some (_, place) => some ([], place)
    | none => (cutMarker? lines).map fun found => (line :: found.1, found.2)

/-- Reads a report of a failed compilation: a message behind `Error:` on the fourth line and, below
it, a place in `,-[path:line:column]`.  When the label stands alone the message is the first line
between the two that says something. -/
def readCompilation : List Text → Attempt
  | _ :: _ :: _ :: header :: below =>
    match cut? "Error:".toList header with
    | none => .error (.unrecognized .nextJs "line 3 has no Error: label".toList)
    | some (_, message) =>
      match cutMarker? below with
      | none => .error (.unrecognized .nextJs "no ,-[ location marker".toList)
      | some (between, place) => do
        let place ← Location.read .nextJs (place.takeWhile (· ≠ ']'))
        let messages := (message :: between).map withoutBullet
        Diagnostic.atLocation .nextJs place ((messages.find? (· ≠ [])).getD [])
  | _ => .error (.unrecognized .nextJs "input too short".toList)

end BuildLog.Bundler
