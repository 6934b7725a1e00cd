import BuildLog.Text.Basic

/-!
# Kinds of characters

Which characters are blank, which are digits, and which ones stand behind a code.
-/

set_option autoImplicit false

/-! ## Blank characters and trimming

Blanks are the characters with the property `White_Space`, so a trimmed text starts and ends with
neither a no-break space nor a line separator.
-/

namespace BuildLog.Text

/-- Runs of blank characters, first and last character of each. -/
def blankRanges : List (Nat × Nat) := [
    (0x0009, 0x000D), (0x0020, 0x0020), (0x0085, 0x0085), (0x00A0, 0x00A0), (0x1680, 0x1680),
    (0x2000, 0x200A), (0x2028, 0x2029), (0x202F, 0x202F), (0x205F, 0x205F), (0x3000, 0x3000)]

def isBlank (c : Char) : Bool :=
  blankRanges.any fun range => decide (range.1 ≤ c.toNat ∧ c.toNat ≤ range.2)

def trimStart (t : Text) : Text :=
  t.dropWhile isBlank

def trimEnd (t : Text) : Text :=
  dropEndWhile isBlank t

def trim (t : Text) : Text :=
  trimEnd (trimStart t)

def isBlankLine (t : Text) : Bool :=
  t.all isBlank

/-! ## Decimal digits of every script

The characters with general category `Nd` in Unicode 16.  They come in runs of ten, so a table of
the zeros is enough.  A line number may be spelled in any of them and still look like a lint entry;
only the ASCII ones can then be read as a number.
-/

def zeroDigits : List Nat := [
    0x0030, 0x0660, 0x06F0, 0x07C0, 0x0966, 0x09E6, 0x0A66, 0x0AE6, 0x0B66, 0x0BE6, 0x0C66, 0x0CE6,
    0x0D66, 0x0DE6, 0x0E50, 0x0ED0, 0x0F20, 0x1040, 0x1090, 0x17E0, 0x1810, 0x1946, 0x19D0, 0x1A80,
    0x1A90, 0x1B50, 0x1BB0, 0x1C40, 0x1C50, 0xA620, 0xA8D0, 0xA900, 0xA9D0, 0xA9F0, 0xAA50, 0xABF0,
    0xFF10, 0x104A0, 0x10D30, 0x10D40, 0x11066, 0x110F0, 0x11136, 0x111D0, 0x112F0, 0x11450,
    0x114D0, 0x11650, 0x116C0, 0x116D0, 0x116DA, 0x11730, 0x118E0, 0x11950, 0x11BF0, 0x11C50,
    0x11D50, 0x11DA0, 0x11F50, 0x16130, 0x16A60, 0x16AC0, 0x16B50, 0x16D70, 0x1CCF0, 0x1D7CE,
    0x1D7D8, 0x1D7E2, 0x1D7EC, 0x1D7F6, 0x1E140, 0x1E2F0, 0x1E4F0, 0x1E5F1, 0x1E950, 0x1FBF0]

def isDecimalDigit (c : Char) : Bool :=
  zeroDigits.any fun first => decide (first ≤ c.toNat ∧ c.toNat < first + 10)

theorem isDecimalDigit_of_isDigit {c : Char} (ascii : c.isDigit = true) :
    isDecimalDigit c = true := by
  have bounds : 48 ≤ c.toNat ∧ c.toNat ≤ 57 := by
    simpa [Char.isDigit, UInt32.le_iff_toNat_le] using ascii
  refine List.any_eq_true.2 ⟨0x0030, by decide, ?_⟩
  simp only [decide_eq_true_eq]
  omega

/-! ## Characters by their codes

Documents write a character by its code in hexadecimal digits.  Codes of surrogates and codes that
are too large stand for no character.
-/

def hexDigit? (c : Char) : Option Nat :=
  if c.isDigit then some (c.toNat - '0'.toNat)
  else if 'a' ≤ c ∧ c ≤ 'f' then some (c.toNat - 'a'.toNat + 10)
  else if 'A' ≤ c ∧ c ≤ 'F' then some (c.toNat - 'A'.toNat + 10)
  else none

def hexNumber? (digits : Text) : Option Nat :=
  digits.foldlM (fun n c => (hexDigit? c).map (16 * n + ·)) 0

def charOf? (code : Nat) : Option Char :=
  if valid : code.isValidChar then some (Char.ofNatAux code valid) else none

theorem charOf?_toNat (c : Char) : charOf? c.toNat = some c := by
  have valid : c.toNat.isValidChar := c.valid
  rw [charOf?, dif_pos valid]
  have same := Char.ofNat_toNat c
  rw [Char.ofNat, dif_pos valid] at same
  exact congrArg some same

def hexChar? (digits : Text) : Option Char :=
  (hexNumber? digits).bind charOf?

def prepend (c : Char) (result : Option (Text × Text)) : Option (Text × Text) :=
  result.map fun found => (c :: found.1, found.2)

end BuildLog.Text
