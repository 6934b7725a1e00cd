import BuildLog.Record
import BuildLog.Text.Basic
import BuildLog.Text.Characters

/-!
# Parts of a candidate

What the layouts have in common: places, codes in front of messages, and the project folder.
-/

set_option autoImplicit false

/-! ## Reading locations

Tools write a place as `path:line:column`, as `path(line,column)` or as a message followed by
`(line:column)`.  All of them are read from the right, because a path may hold colons and
parentheses of its own.
-/

namespace BuildLog

open Text

namespace Location

def number (format : Format) (field token : Text) : Except Failure Nat :=
  match Numeral.read? (trim token) with
  | some n => .ok n
  | none => .error (.notANumber format field token)

/-- Reads the digits at the start of a token and ignores what follows them. -/
def leadingNumber (format : Format) (field token : Text) : Except Failure Nat :=
  number format field ((trimStart token).takeWhile Char.isDigit)

def numbers (format : Format) (line column : Text) : Except Failure (Nat × Nat) := do
  let line ← number format "line".toList line
  let column ← number format "column".toList column
  return (line, column)

def coordinates (format : Format) (separator : Char) (t : Text) : Except Failure (Nat × Nat) :=
  match cut? [separator] t with
  | none => .error (.unrecognized format "expected line and column".toList)
  | some (line, column) => numbers format line column

/-- The three parts of `path:line:column` as they are written.  The path keeps every colon but the
last two. -/
def parts? (t : Text) : Option (Text × Text × Text) := do
  let (front, column) ← cutLast? ':' t
  let (path, line) ← cutLast? ':' front
  return (path, line, column)

/-- Reads `path:line:column`; blanks around it and colons after it do not matter. -/
def read (format : Format) (t : Text) : Except Failure Location :=
  match parts? (dropEndWhile (· = ':') (trim t)) with
  | none => .error (.unrecognized format "expected path:line:col".toList)
  | some (path, line, column) => do
    let (line, column) ← numbers format line column
    return ⟨trim path, line, column⟩

/-- What stands before the last parenthesised group of a text, and what stands inside it.  The group
ends at the last closing parenthesis and starts at the last opening one before it. -/
def lastGroup? (t : Text) : Option (Text × Text) :=
  match cutLast? ')' t with
  | none => none
  | some (front, _) => cutLast? '(' front

end Location

end BuildLog

/-! ## Diagnostic codes in front of a message

A message may start with the code of the diagnostic: two or more capital letters, digits and a
colon, as in `TS2304:` or `NG8001:`, with the word `error` in front of it in any case.  Readers of a
record care for the message only.
-/

namespace BuildLog.CodeLabel

open Text

def isCapital (c : Char) : Bool :=
  c.isUpper

def afterCode? (t : Text) : Option Text :=
  let digits := t.dropWhile isCapital
  match digits.dropWhile isDecimalDigit with
  | ':' :: rest =>
    if 2 ≤ (t.takeWhile isCapital).length ∧ digits.takeWhile isDecimalDigit ≠ [] then some rest
    else none
  | _ => none

def afterErrorWord? (t : Text) : Option Text :=
  match afterLowered? "error".toList t with
  | some (c :: rest) => if isBlank c then some (trimStart rest) else none
  | _ => none

/-- What follows a whole label: the code, with the word `error` in front of it or without. -/
def afterLabel? (t : Text) : Option Text :=
  match (afterErrorWord? t).bind afterCode? with
  | some rest => some rest
  | none => afterCode? t

def strip (message : Text) : Text :=
  match afterLabel? (trim message) with
  | some rest => trimStart rest
  | none => trim message

end BuildLog.CodeLabel

/-! ## The project folder

Some layouts are too common to be trusted anywhere, so they count only in lines that name the
project folder, or only in lines that do not.
-/

namespace BuildLog.Folder

/-- Whether a line names the project folder; no line names an empty one. -/
def names (folder line : Text) : Bool :=
  folder ≠ [] && Text.occursIn folder line

@[simp] theorem names_nil (line : Text) : names [] line = false := rfl

end BuildLog.Folder
