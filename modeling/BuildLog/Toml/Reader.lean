import BuildLog.Toml.Number
import BuildLog.Toml.Quotes
import BuildLog.Toml.Value

/-!
# Reading TOML

A document is read as a list of statements, and a table is built from them.  Every reader returns
what is left of the text.
-/

set_option autoImplicit false

namespace BuildLog.Toml

open Text

/-! ## Between tokens -/

def skipSpace (t : Text) : Text :=
  t.dropWhile fun c => c = ' ' || c = '\t'

def afterBreak? : Text → Option Text
  | '\n' :: rest => some rest
  | '\r' :: '\n' :: rest => some rest
  | _ => none

/-- Drops a comment, up to the first character that cannot stand in one. -/
def skipComment (t : Text) : Text :=
  match t with
  | '#' :: rest => rest.dropWhile isInline
  | t => t

/-- What follows the end of a line: a comment may stand there, and the text may end. -/
def afterLine? (t : Text) : Option Text :=
  match skipComment (skipSpace t) with
  | [] => some []
  | t => afterBreak? t

def skipLines (inComment : Bool) : Text → Text
  | [] => []
  | '\n' :: rest => skipLines false rest
  | '\r' :: '\n' :: rest => skipLines false rest
  | c :: rest =>
    if inComment then if isInline c then skipLines true rest else c :: rest
    else if c = ' ' || c = '\t' then skipLines false rest
    else if c = '#' then skipLines true rest
    else c :: rest

/-! ## Keys -/

def isBare (c : Char) : Bool :=
  c.isAlphanum || c = '_' || c = '-'

def readStep? (t : Text) : Option (Text × Text) :=
  match t with
  | '"' :: rest => readBasic rest
  | '\'' :: rest => readLiteral rest
  | t => if t.takeWhile isBare = [] then none else some (t.takeWhile isBare, t.dropWhile isBare)

/-- Keys and nested values have fewer parts and levels than this. -/
def depthLimit : Nat := 80

/-- Reads the parts of a key, at most `most` of them, with blanks around them. -/
def readSteps : (most : Nat) → Text → Option (List Text × Text)
  | 0, _ => none
  | most + 1, t => do
    let (step, rest) ← readStep? (skipSpace t)
    match skipSpace rest with
    | '.' :: rest =>
      let (steps, rest) ← readSteps most rest
      return (step :: steps, rest)
    | rest => return ([step], rest)

def readKey? (t : Text) : Option (Key × Text) := do
  let (steps, rest) ← readSteps (depthLimit - 1) t
  let name ← steps.getLast?
  return (⟨steps.dropLast, name⟩, rest)

/-! ## Values -/

/-- Whether a character may stand in a number, a date or the name of a constant. -/
def isWordChar (c : Char) : Bool :=
  c.isAlphanum || c = '+' || c = '-' || c = '_' || c = '.' || c = ':'

def ofWord? (word : Text) : Option Toml :=
  if word = "true".toList then some (boolean true)
  else if word = "false".toList then some (boolean false)
  else if isDateTime word then some (dateTime word)
  else if isFloat word then some (float word)
  else (integer? word).map integer

def readWord? (t : Text) : Option (Toml × Text) :=
  let word := t.takeWhile isWordChar
  let rest := t.dropWhile isWordChar
  let time := rest.tail.takeWhile isWordChar
  if isDate word && rest.head? = some ' ' && isTimeWithOffset time then
    some (dateTime (word ++ ' ' :: time), rest.tail.dropWhile isWordChar)
  else (ofWord? word).map fun value => (value, rest)

/-- Reads the items of an array whose bracket has been read, at most `most` of them. -/
def readItems (read? : Text → Option (Toml × Text)) :
    (most : Nat) → Text → Option (List Toml × Text)
  | most, t =>
    match skipLines false t with
    | ']' :: rest => some ([], rest)
    | t =>
      match most with
      | 0 => none
      | most + 1 => do
        let (item, rest) ← read? t
        match skipLines false rest with
        | ']' :: rest => return ([item], rest)
        | ',' :: rest =>
          let (items, rest) ← readItems read? most rest
          return (item :: items, rest)
        | _ => none

def readAssignment? (read? : Text → Option (Toml × Text)) (t : Text) :
    Option ((Key × Toml) × Text) := do
  let (key, rest) ← readKey? t
  let rest ← after? ['='] rest
  let (value, rest) ← read? (skipSpace rest)
  return ((key, value), rest)

/-- Reads at least one assignment and the closing brace, at most `most` assignments. -/
def readAssignments (read? : Text → Option (Toml × Text)) :
    (most : Nat) → Text → Option (List (Key × Toml) × Text)
  | 0, _ => none
  | most + 1, t => do
    let (assignment, rest) ← readAssignment? read? t
    match skipSpace rest with
    | '\x7d' :: rest => return ([assignment], rest)
    | ',' :: rest =>
      let (assignments, rest) ← readAssignments read? most rest
      return (assignment :: assignments, rest)
    | _ => none

def readBraces? (read? : Text → Option (Toml × Text)) (t : Text) : Option (Toml × Text) :=
  match skipSpace t with
  | '\x7d' :: rest => some (table .inline [], rest)
  | t => do
    let (assignments, rest) ← readAssignments read? t.length t
    return (← ofBraces? assignments, rest)

/-- Reads a value with at most `depth` levels of brackets and braces inside each other. -/
def readValue? : (depth : Nat) → Text → Option (Toml × Text)
  | depth, '[' :: rest =>
    match depth with
    | 0 => none
    | depth + 1 =>
      (readItems (readValue? depth) rest.length rest).map fun found => (array found.1, found.2)
  | depth, '\x7b' :: rest =>
    match depth with
    | 0 => none
    | depth + 1 => readBraces? (readValue? depth) rest
  | _, t => ((readString? t).map fun found => (string found.1, found.2)).or (readWord? t)

/-! ## Documents -/

def readHeader? (closing t : Text) : Option (Key × Text) := do
  let (key, rest) ← readKey? t
  return (key, ← after? closing rest)

def readStatement? (t : Text) : Option (Statement × Text) :=
  match t with
  | '[' :: '[' :: rest =>
    (readHeader? "]]".toList rest).map fun found => (.listHeader found.1, found.2)
  | '[' :: rest => (readHeader? "]".toList rest).map fun found => (.header found.1, found.2)
  | t =>
    (readAssignment? (readValue? (depthLimit - 1)) t).map fun found =>
      (.assignment found.1.1 found.1.2, found.2)

def readLines : (most : Nat) → Text → Option (List Statement)
  | 0, t => if t = [] then some [] else none
  | most + 1, t =>
    match skipSpace t with
    | [] => some []
    | t =>
      match afterLine? t with
      | some rest => readLines most rest
      | none => do
        let (statement, rest) ← readStatement? t
        let statements ← readLines most (← afterLine? rest)
        return statement :: statements

/-- Reads a document; a byte order mark in front of it is left out. -/
def ofText? (t : Text) : Option Members :=
  let t := (after? ['\ufeff'] t).getD t
  (readLines t.length t).bind ofStatements?

end BuildLog.Toml
