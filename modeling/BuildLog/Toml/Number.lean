import BuildLog.Text.Characters

/-!
# Numbers and dates in TOML

A word is the longest run of characters that numbers and dates consist of.  Nothing that may follow
a value can stand in a word, so each kind of value is a test on the whole word.
-/

set_option autoImplicit false

namespace BuildLog.Toml

open Text

/-! ## Digits -/

def digitsValue (base : Nat) (digits : Text) : Nat :=
  digits.foldl (fun n c => base * n + (hexDigit? c).getD 0) 0

/-- Digits with single underscores between them, without the underscores. -/
def ungrouped? (isDigit : Char → Bool) : Text → Option Text
  | [] => none
  | [c] => if isDigit c then some [c] else none
  | c :: '_' :: rest =>
    if isDigit c then (ungrouped? isDigit rest).map (c :: ·) else none
  | c :: rest => if isDigit c then (ungrouped? isDigit rest).map (c :: ·) else none

/-- The digits of a whole number: no zero stands in front of another digit. -/
def wholeDigits? (t : Text) : Option Text :=
  if t.head? = some '0' ∧ t.length ≠ 1 then none else ungrouped? Char.isDigit t

def unsigned (word : Text) : Bool × Text :=
  match word with
  | '-' :: rest => (true, rest)
  | '+' :: rest => (false, rest)
  | rest => (false, rest)

/-! ## Integers -/

/-- The first natural number that does not fit in a signed word of 64 bits. -/
def integerLimit : Nat := Nat.pow 2 63

def decimalInteger? (word : Text) : Option Int :=
  let (negative, digits) := unsigned word
  (wholeDigits? digits).bind fun digits =>
    let n := digitsValue 10 digits
    if negative then if n ≤ integerLimit then some (-n) else none
    else if n < integerLimit then some n else none

def basedInteger? (base : Nat) (isDigit : Char → Bool) (digits : Text) : Option Int :=
  (ungrouped? isDigit digits).bind fun digits =>
    let n := digitsValue base digits
    if n < integerLimit then some n else none

def integer? (word : Text) : Option Int :=
  match word with
  | '0' :: 'x' :: digits => basedInteger? 16 (fun c => (hexDigit? c).isSome) digits
  | '0' :: 'o' :: digits => basedInteger? 8 (fun c => '0' ≤ c && c ≤ '7') digits
  | '0' :: 'b' :: digits => basedInteger? 2 (fun c => c = '0' || c = '1') digits
  | word => decimalInteger? word

/-! ## Floats -/

def exponent? (t : Text) : Option Int :=
  let (negative, digits) := unsigned t
  (ungrouped? Char.isDigit digits).map fun digits =>
    if negative then -(digitsValue 10 digits : Int) else digitsValue 10 digits

/-- Whether `digits × 10 ^ exponent` is closer to the largest finite double than to the next power
of two; a tie goes to the power, which is infinite. -/
def isFinite (digits : Text) (exponent : Int) : Bool :=
  let digits := digits.dropWhile (· = '0')
  let magnitude := exponent + digits.length
  if digits = [] ∨ magnitude < 300 then true
  else if 320 < magnitude then false
  else
    let bound := Nat.pow 2 1024 - Nat.pow 2 970
    if 0 ≤ exponent then decide (digitsValue 10 digits * Nat.pow 10 exponent.toNat < bound)
    else decide (digitsValue 10 digits < bound * Nat.pow 10 (-exponent).toNat)

/-- The digits of a decimal float before and after the point, and its exponent.  At least one of
point and exponent is there. -/
def floatParts? (t : Text) : Option (Text × Text × Int) := do
  let isMark := fun c => c = 'e' || c = 'E'
  let mantissa := t.takeWhile fun c => !isMark c
  let tail := t.dropWhile fun c => !isMark c
  let whole ← wholeDigits? (mantissa.takeWhile (· ≠ '.'))
  let fraction ←
    match mantissa.dropWhile (· ≠ '.') with
    | [] => some []
    | _ :: digits => ungrouped? Char.isDigit digits
  match tail with
  | [] => if fraction = [] then none else some (whole, fraction, 0)
  | _ :: power => (exponent? power).map fun power => (whole, fraction, power)

/-- Whether a word is a float.  Only an overflow towards positive infinity is refused. -/
def isFloat (word : Text) : Bool :=
  let (negative, t) := unsigned word
  if t = "inf".toList || t = "nan".toList then true
  else
    match floatParts? t with
    | none => false
    | some (whole, fraction, power) =>
      negative || isFinite (whole ++ fraction) (power - fraction.length)

/-! ## Dates -/

def fixedDigits? (count : Nat) (t : Text) : Option (Nat × Text) :=
  let digits := t.take count
  if digits.length = count ∧ digits.all Char.isDigit then
    some (digitsValue 10 digits, t.drop count)
  else none

def daysIn (year month : Nat) : Nat :=
  if month = 2 then
    if year % 4 = 0 ∧ (year % 100 ≠ 0 ∨ year % 400 = 0) then 29 else 28
  else if month = 4 ∨ month = 6 ∨ month = 9 ∨ month = 11 then 30
  else 31

def afterDate? (t : Text) : Option Text := do
  let (year, t) ← fixedDigits? 4 t
  let t ← after? ['-'] t
  let (month, t) ← fixedDigits? 2 t
  let t ← after? ['-'] t
  let (day, t) ← fixedDigits? 2 t
  if 1 ≤ month ∧ month ≤ 12 ∧ 1 ≤ day ∧ day ≤ daysIn year month then some t else none

def afterHourMinute? (t : Text) : Option Text := do
  let (hour, t) ← fixedDigits? 2 t
  let t ← after? [':'] t
  let (minute, t) ← fixedDigits? 2 t
  if hour ≤ 23 ∧ minute ≤ 59 then some t else none

/-- What follows a time of the day; there may be a leap second. -/
def afterTime? (t : Text) : Option Text := do
  let t ← afterHourMinute? t
  let t ← after? [':'] t
  let (second, t) ← fixedDigits? 2 t
  if 60 < second then none
  else
    match t with
    | '.' :: fraction =>
      if fraction.takeWhile Char.isDigit = [] then none else some (fraction.dropWhile Char.isDigit)
    | t => some t

def isOffset : Text → Bool
  | [] => true
  | [c] => c = 'Z' || c = 'z'
  | c :: t => (c = '+' || c = '-') && afterHourMinute? t = some []

def isDate (word : Text) : Bool :=
  afterDate? word = some []

def isTimeWithOffset (word : Text) : Bool :=
  match afterTime? word with
  | none => false
  | some offset => isOffset offset

def isDateTime (word : Text) : Bool :=
  afterTime? word = some [] ||
    match afterDate? word with
    | none => false
    | some [] => true
    | some (c :: time) => (c = 'T' || c = 't') && isTimeWithOffset time

end BuildLog.Toml
