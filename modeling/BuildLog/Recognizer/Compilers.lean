import BuildLog.Recognizer.Parts

/-!
# Compilers

Compilers print a diagnostic in one line or two, each in its own layout.
-/

set_option autoImplicit false

/-! ## TypeScript diagnostics

The compiler's own batch output, and the layouts in which bundlers and command-line tools wrap it.
-/

namespace BuildLog.TypeScript

open Text

/-- The header of a diagnostic in two lines, `TypeScript error in path(line,column):`; what follows
the words is kept. -/
def wrappedHeader? (line : Text) : Option Text :=
  after? "TypeScript error in ".toList (trim line)

/-- Whether a text is one blank or more, `TS` and digits, up to its end. -/
def isTrailingCode : Text → Bool
  | [] => false
  | c :: t =>
    isBlank c &&
      match after? "TS".toList (trimStart t) with
      | some digits => digits ≠ [] && digits.all isDecimalDigit
      | none => false

/-- Reads the place in a two-line header and the message in the line below it, without the code that
may end the message. -/
def readWrapped (header message : Text) : Attempt :=
  let place := dropEndWhile (· = ':') (trim header)
  match Location.lastGroup? place with
  | none => .error (.unrecognized .craTypescript "no (line,col)".toList)
  | some (path, inside) => do
    let (line, column) ← Location.coordinates .craTypescript ',' inside
    Diagnostic.ofOneBased .craTypescript path line column (cutBefore isTrailingCode (trim message))

/-- Reads a place and a message on the two sides of `: error `, as in
`path(line,column): error TS2304: message`. -/
def readParenthesized (place message : Text) : Attempt :=
  match Location.lastGroup? (trim place) with
  | none => .error (.unrecognized .viteColon "no (line,col) before error".toList)
  | some (path, inside) => do
    let (line, column) ← Location.coordinates .viteColon ',' inside
    Diagnostic.ofOneBased .viteColon path line column (CodeLabel.strip message)

def parenthesized? (line : Text) : Option Attempt :=
  (cut? ": error ".toList line).map fun sides => readParenthesized sides.1 sides.2

/-- The place in a header `ERROR  in path:line:column`, in any ASCII case. -/
def componentHeader? (line : Text) : Option Text :=
  (cutLowered? "error  in ".toList line).map Prod.snd

/-- Reads the place in a component's header and the message in the line that goes with it. -/
def readComponent (place message : Text) : Attempt := do
  let place ← Location.read .vueTypescript place
  Diagnostic.atLocation .vueTypescript place (CodeLabel.strip (trim message))

/-- Reads `Error: path:line:column - ... - message`.  The path is what stands before the first colon
after the label, the coordinates are the third and the fourth part of the line between colons, and
the message follows the second ` - `, or the only one. -/
def readLabelled (line rest : Text) : Attempt :=
  match line.splitOn ':' with
  | _ :: _ :: row :: column :: _ => do
    let row ← Location.leadingNumber .genericError "line".toList row
    let column ← Location.leadingNumber .genericError "column".toList column
    match cut? " - ".toList line with
    | none => .error (.unrecognized .genericError "no \" - \" before message".toList)
    | some (_, tail) =>
      let message := ((cut? " - ".toList tail).map Prod.snd).getD tail
      Diagnostic.ofOneBased .genericError (rest.takeWhile (· ≠ ':')) row column
        (CodeLabel.strip message)
  | _ => .error (.unrecognized .genericError "expected path:line:col".toList)

/-- Reads the place in front of `- error TS` and the message from the word `error` on. -/
def readBatch (place message : Text) : Attempt := do
  let place ← Location.read .typescriptBatch place
  Diagnostic.atLocation .typescriptBatch place (CodeLabel.strip message)

/-- A line of the two layouts that the last pass knows: the label wins over the batch mark. -/
def statement? (line : Text) : Option Attempt :=
  match after? "Error: ".toList line with
  | some rest => some (readLabelled line rest)
  | none =>
    (cut? "- error TS".toList line).map fun sides =>
      readBatch sides.1 ("error TS".toList ++ sides.2)

end BuildLog.TypeScript

/-! ## Script syntax errors

A syntax error of a script stands in one line, `SyntaxError: path: message (line:column)`.
-/

namespace BuildLog.Script

open Text

def readSyntaxError (t : Text) : Attempt :=
  match cut? [':'] t with
  | none => .error (.unrecognized .syntaxError "no path before message".toList)
  | some (path, detail) =>
    match Location.lastGroup? detail with
    | none => .error (.unrecognized .syntaxError "no (line:col)".toList)
    | some (message, inside) => do
      let (line, column) ← Location.coordinates .syntaxError ':' inside
      Diagnostic.ofOneBased .syntaxError path line column message

def syntaxError? (line : Text) : Option Attempt :=
  (after? "SyntaxError:".toList (trim line)).map readSyntaxError

end BuildLog.Script

/-! ## Java compiler errors

`path:line: error: message`, with the line below it added to the message.  Only lines that name the
project folder count.
-/

namespace BuildLog.Java

open Text

def header? (folder line : Text) : Option Text :=
  if Folder.names folder line && occursIn "error:".toList line then some line else none

/-- Reads a header and the line below it.  There is no column. -/
def read (header next : Text) : Attempt :=
  match cut? " error: ".toList header with
  | none => .error (.unrecognized .java "no \" error: \" separator".toList)
  | some (place, message) =>
    match cutLast? ':' (dropEndWhile (· = ':') (trim place)) with
    | none => .error (.unrecognized .java "expected path:line".toList)
    | some (path, line) => do
      let line ← Location.number .java "line".toList line
      Diagnostic.ofZeroBased .java path (line - 1) 0 (spaced (trim message) (trim next))

end BuildLog.Java

/-! ## Swift compiler diagnostics

The compiler prints place and message in one line, `path:line:column: error: message`, and the line
it complains about below it.
-/

namespace BuildLog.Swift

open Text

def isCandidate (line : Text) : Bool :=
  occursIn ".swift:".toList line && occursIn ": error".toList (lowered line)

/-- What follows the first marker of a message.  A marker with a colon wins over one without. -/
def message? (candidate : Text) : Option Text :=
  ((cutLowered? ": error:".toList candidate).or (cutLowered? ": error ".toList candidate)).map
    Prod.snd

/-- Reads a candidate, without the remark on its target, and the line that belongs to it. -/
def read (candidate context : Text) : Attempt :=
  let candidate := ((cut? " (in target ".toList candidate).map Prod.fst).getD candidate
  match candidate.splitOn ':' with
  | path :: line :: column :: _ => do
    let (line, column) ← Location.numbers .xcode line column
    match message? candidate with
    | none => .error (.unrecognized .xcode "no error marker".toList)
    | some message =>
      Diagnostic.ofOneBased .xcode path line column (spaced (trim message) (trim context))
  | [_, _] => .error (.unrecognized .xcode "missing column number".toList)
  | _ => .error (.unrecognized .xcode "missing line number".toList)

end BuildLog.Swift
