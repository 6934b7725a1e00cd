import BuildLog.Json.Value
import BuildLog.Text.Characters

/-!
# Reading JSON

The reader accepts exactly one document with blanks around it.  Every step returns what is left of
the text, and the whole is bounded by the length of the text.
-/

set_option autoImplicit false

namespace BuildLog.Json

open Text

def isGap (c : Char) : Bool :=
  c = ' ' || c = '\n' || c = '\t' || c = '\r'

def skipGap (t : Text) : Text :=
  t.dropWhile isGap

/-! ## Strings -/

def pairOf? (high low : Nat) : Option Char :=
  if 0xDC00 ≤ low ∧ low ≤ 0xDFFF then charOf? (0x10000 + (high - 0xD800) * 0x400 + (low - 0xDC00))
  else none

def shortEscape? : Char → Option Char
  | '"' => some '"'
  | '\\' => some '\\'
  | '/' => some '/'
  | 'b' => some '\x08'
  | 'f' => some '\x0c'
  | 'n' => some '\n'
  | 'r' => some '\r'
  | 't' => some '\t'
  | _ => none

def readString : Text → Option (Text × Text)
  | [] => none
  | '"' :: rest => some ([], rest)
  | '\\' :: 'u' :: a :: b :: c :: d :: rest =>
    match hexNumber? [a, b, c, d] with
    | none => none
    | some unit =>
      if 0xD800 ≤ unit ∧ unit ≤ 0xDBFF then
        match rest with
        | '\\' :: 'u' :: e :: f :: g :: h :: rest =>
          ((hexNumber? [e, f, g, h]).bind (pairOf? unit)).bind fun char =>
            prepend char (readString rest)
        | _ => none
      else (charOf? unit).bind fun char => prepend char (readString rest)
  | '\\' :: letter :: rest => (shortEscape? letter).bind fun char => prepend char (readString rest)
  | c :: rest => if c.toNat < 0x20 ∨ c = '\\' then none else prepend c (readString rest)

/-! ## Numbers -/

def isDigits (t : Text) : Bool :=
  t ≠ [] && t.all Char.isDigit

def isWhole (t : Text) : Bool :=
  isDigits t && (t = ['0'] || t.head? ≠ some '0')

def isExponent : Text → Bool
  | '+' :: t => isDigits t
  | '-' :: t => isDigits t
  | t => isDigits t

def isUnsigned (t : Text) : Bool :=
  let mantissa := t.takeWhile fun c => c ≠ 'e' && c ≠ 'E'
  let exponent := t.dropWhile fun c => c ≠ 'e' && c ≠ 'E'
  let whole := mantissa.takeWhile (· ≠ '.')
  let fraction := mantissa.dropWhile (· ≠ '.')
  isWhole whole && (fraction = [] || isDigits fraction.tail) &&
    (exponent = [] || isExponent exponent.tail)

def isNumeric (c : Char) : Bool :=
  c.isDigit || c = '-' || c = '+' || c = '.' || c = 'e' || c = 'E'

def numberOf? (spelling : Text) : Option Json :=
  if isWhole spelling then some (natural (Numeral.value spelling))
  else if isUnsigned ((after? ['-'] spelling).getD spelling) then some (otherNumber spelling)
  else none

def readNumber (t : Text) : Option (Json × Text) :=
  (numberOf? (t.takeWhile isNumeric)).map fun number => (number, t.dropWhile isNumeric)

/-! ## Documents -/

def readWord (word : Text) (value : Json) (t : Text) : Option (Json × Text) :=
  (after? word t).map fun rest => (value, rest)

mutual

def readValue : Nat → Text → Option (Json × Text)
  | 0, _ => none
  | fuel + 1, t =>
    match skipGap t with
    | '"' :: rest => (readString rest).map fun found => (string found.1, found.2)
    | '[' :: rest =>
      match skipGap rest with
      | ']' :: rest => some (array [], rest)
      | _ => (readItems fuel rest).map fun found => (array found.1, found.2)
    | '\x7b' :: rest =>
      match skipGap rest with
      | '\x7d' :: rest => some (object [], rest)
      | _ => (readMembers fuel rest).map fun found => (object found.1, found.2)
    | 'n' :: rest => readWord "ull".toList null rest
    | 't' :: rest => readWord "rue".toList (bool true) rest
    | 'f' :: rest => readWord "alse".toList (bool false) rest
    | t => readNumber t

def readItems : Nat → Text → Option (List Json × Text)
  | 0, _ => none
  | fuel + 1, t => do
    let (item, rest) ← readValue fuel t
    match skipGap rest with
    | ']' :: rest => some ([item], rest)
    | ',' :: rest =>
      let (items, rest) ← readItems fuel rest
      some (item :: items, rest)
    | _ => none

def readMembers : Nat → Text → Option (List (Text × Json) × Text)
  | 0, _ => none
  | fuel + 1, t => do
    let afterQuote ← after? ['"'] (skipGap t)
    let (name, rest) ← readString afterQuote
    let afterColon ← after? [':'] (skipGap rest)
    let (value, rest) ← readValue fuel afterColon
    match skipGap rest with
    | '\x7d' :: rest => some ([(name, value)], rest)
    | ',' :: rest =>
      let (members, rest) ← readMembers fuel rest
      some ((name, value) :: members, rest)
    | _ => none

end

def ofText? (t : Text) : Option Json := do
  let (value, rest) ← readValue (2 * t.length + 1) t
  if skipGap rest = [] then some value else none

end BuildLog.Json
