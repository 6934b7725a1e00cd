import BuildLog.Json.Value

/-!
# Writing JSON

Two layouts: everything in one line without blanks, and one item or member a line with two blanks
for each level.  Only what a string cannot hold otherwise is escaped.
-/

set_option autoImplicit false

namespace BuildLog.Json

def hexPair (n : Nat) : Text :=
  [Nat.digitChar (n / 16), Nat.digitChar (n % 16)]

def escapedChar (c : Char) : Text :=
  if c = '"' then ['\\', '"']
  else if c = '\\' then ['\\', '\\']
  else if c = '\x08' then ['\\', 'b']
  else if c = '\t' then ['\\', 't']
  else if c = '\n' then ['\\', 'n']
  else if c = '\x0c' then ['\\', 'f']
  else if c = '\r' then ['\\', 'r']
  else if c.toNat < 0x20 then ['\\', 'u', '0', '0'] ++ hexPair c.toNat
  else [c]

def writeString (t : Text) : Text :=
  '"' :: t.flatMap escapedChar ++ ['"']

mutual

def compact : Json → Text
  | null => "null".toList
  | bool true => "true".toList
  | bool false => "false".toList
  | natural n => Numeral.render n
  | otherNumber spelling => spelling
  | string t => writeString t
  | array [] => "[]".toList
  | array (item :: items) => '[' :: compact item ++ compactItems items
  | object [] => "\x7b\x7d".toList
  | object ((name, value) :: members) =>
    '\x7b' :: writeString name ++ ':' :: compact value ++ compactMembers members

def compactItems : List Json → Text
  | [] => [']']
  | item :: items => ',' :: compact item ++ compactItems items

def compactMembers : List (Text × Json) → Text
  | [] => ['\x7d']
  | (name, value) :: members =>
    ',' :: writeString name ++ ':' :: compact value ++ compactMembers members

end

def newline (level : Nat) : Text :=
  '\n' :: List.replicate (2 * level) ' '

mutual

/-- A document over several lines; `level` is the level of the line it starts on. -/
def pretty (level : Nat) : Json → Text
  | null => "null".toList
  | bool true => "true".toList
  | bool false => "false".toList
  | natural n => Numeral.render n
  | otherNumber spelling => spelling
  | string t => writeString t
  | array [] => "[]".toList
  | array (item :: items) =>
    '[' :: newline (level + 1) ++ pretty (level + 1) item ++ prettyItems level items
  | object [] => "\x7b\x7d".toList
  | object ((name, value) :: members) =>
    '\x7b' :: newline (level + 1) ++ writeString name ++ ": ".toList ++ pretty (level + 1) value ++
      prettyMembers level members

def prettyItems (level : Nat) : List Json → Text
  | [] => newline level ++ [']']
  | item :: items =>
    ',' :: newline (level + 1) ++ pretty (level + 1) item ++ prettyItems level items

def prettyMembers (level : Nat) : List (Text × Json) → Text
  | [] => newline level ++ ['\x7d']
  | (name, value) :: members =>
    ',' :: newline (level + 1) ++ writeString name ++ ": ".toList ++ pretty (level + 1) value ++
      prettyMembers level members

end

end BuildLog.Json
