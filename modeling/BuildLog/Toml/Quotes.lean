import BuildLog.Text.Characters

/-!
# Strings in TOML

Strings stand in double quotes, where a backslash starts an escape, or in single quotes, where it
does not; and each of them in one line or over several.
-/

set_option autoImplicit false

namespace BuildLog.Toml

open Text

/-- Whether a character may stand in a comment or in a string of one line. -/
def isInline (c : Char) : Bool :=
  c = '\t' || (0x20 ≤ c.toNat && c ≠ '\x7f')

def shortEscape? : Char → Option Char
  | '"' => some '"'
  | '\\' => some '\\'
  | 'b' => some '\x08'
  | 'f' => some '\x0c'
  | 'n' => some '\n'
  | 'r' => some '\r'
  | 't' => some '\t'
  | _ => none

/-- Where a reader of a string over several lines stands. -/
inductive Fold where
  | none
  /-- After a backslash at the end of a line, before the line break. -/
  | line
  /-- After that line break, where blanks and further line breaks are left out. -/
  | lines

def readBasic : Text → Option (Text × Text)
  | [] => none
  | '"' :: rest => some ([], rest)
  | '\\' :: 'u' :: a :: b :: c :: d :: rest =>
    (hexChar? [a, b, c, d]).bind fun char => prepend char (readBasic rest)
  | '\\' :: 'U' :: a :: b :: c :: d :: e :: f :: g :: h :: rest =>
    (hexChar? [a, b, c, d, e, f, g, h]).bind fun char => prepend char (readBasic rest)
  | '\\' :: letter :: rest => (shortEscape? letter).bind fun char => prepend char (readBasic rest)
  | c :: rest => if isInline c && c ≠ '\\' then prepend c (readBasic rest) else none

def readLiteral : Text → Option (Text × Text)
  | [] => none
  | '\'' :: rest => some ([], rest)
  | c :: rest => if isInline c then prepend c (readLiteral rest) else none

def closing (quote : Char) (rest : Text) : Text × Text :=
  match rest with
  | c :: d :: rest =>
    if c = quote then
      if d = quote then ([quote, quote], rest) else ([quote], d :: rest)
    else ([], c :: d :: rest)
  | [c] => if c = quote then ([quote], []) else ([], [c])
  | [] => ([], [])

/-- Reads a string over several lines in double quotes whose opening quotes have been read. -/
def readBasicLines : Fold → Text → Option (Text × Text)
  | _, [] => none
  | fold, '\r' :: '\n' :: rest =>
    match fold with
    | .none => prepend '\n' (readBasicLines .none rest)
    | _ => readBasicLines .lines rest
  | fold, '\n' :: rest =>
    match fold with
    | .none => prepend '\n' (readBasicLines .none rest)
    | _ => readBasicLines .lines rest
  | .line, c :: rest => if c = ' ' || c = '\t' then readBasicLines .line rest else none
  | fold, c :: rest =>
    match fold, c with
    | .lines, ' ' => readBasicLines .lines rest
    | .lines, '\t' => readBasicLines .lines rest
    | _, '"' =>
      match rest with
      | '"' :: '"' :: rest => some (closing '"' rest)
      | rest => prepend '"' (readBasicLines .none rest)
    | _, '\\' =>
      match rest with
      | 'u' :: a :: b :: c :: d :: rest =>
        (hexChar? [a, b, c, d]).bind fun char => prepend char (readBasicLines .none rest)
      | 'U' :: a :: b :: c :: d :: e :: f :: g :: h :: rest =>
        (hexChar? [a, b, c, d, e, f, g, h]).bind fun char =>
          prepend char (readBasicLines .none rest)
      | letter :: rest =>
        if letter = ' ' || letter = '\t' then readBasicLines .line rest
        else if letter = '\n' then readBasicLines .lines rest
        else if letter = '\r' then
          match rest with
          | '\n' :: rest => readBasicLines .lines rest
          | _ => none
        else (shortEscape? letter).bind fun char => prepend char (readBasicLines .none rest)
      | [] => none
    | _, c => if isInline c then prepend c (readBasicLines .none rest) else none

/-- Reads a string over several lines in single quotes whose opening quotes have been read. -/
def readLiteralLines : Text → Option (Text × Text)
  | [] => none
  | '\'' :: '\'' :: '\'' :: rest => some (closing '\'' rest)
  | '\r' :: '\n' :: rest => prepend '\n' (readLiteralLines rest)
  | '\n' :: rest => prepend '\n' (readLiteralLines rest)
  | c :: rest => if isInline c then prepend c (readLiteralLines rest) else none

def skipBreak : Text → Text
  | '\n' :: rest => rest
  | '\r' :: '\n' :: rest => rest
  | t => t

def readString? (t : Text) : Option (Text × Text) :=
  match t with
  | '"' :: '"' :: '"' :: rest => readBasicLines .none (skipBreak rest)
  | '"' :: rest => readBasic rest
  | '\'' :: '\'' :: '\'' :: rest => readLiteralLines (skipBreak rest)
  | '\'' :: rest => readLiteral rest
  | _ => none

end BuildLog.Toml
