import BuildLog.Text.Basic

/-!
# Numerals

Coordinates and settings are natural numbers below `Numeral.limit`, written in decimal.  Reading
allows one plus sign and leading zeros; writing uses neither.
-/

set_option autoImplicit false

namespace BuildLog.Numeral

open Text

/-- Numbers are kept in 64 bits: no numeral stands for this number or a larger one. -/
def limit : Nat := UInt64.size

def render (n : Nat) : Text :=
  Nat.toDigits 10 n

def value (digits : Text) : Nat :=
  Nat.ofDigitChars 10 digits 0

theorem value_render (n : Nat) : value (render n) = n :=
  Nat.ofDigitChars_ten_toDigits

/-- Reads an optional plus sign and at least one ASCII digit; a number that needs more than 64 bits
is refused like any other text. -/
def read? (token : Text) : Option Nat :=
  let digits := (after? ['+'] token).getD token
  if digits ≠ [] ∧ digits.all Char.isDigit ∧ value digits < limit then some (value digits) else none

theorem read?_render {n : Nat} (small : n < limit) : read? (render n) = some n := by
  have digits : ∀ c ∈ render n, c.isDigit = true := fun c member =>
    Nat.isDigit_of_mem_toDigits (by decide) (by decide) member
  have unsigned : after? ['+'] (render n) = none := by
    rw [Option.eq_none_iff_forall_ne_some]
    intro rest signed
    rw [after?_eq_some_iff] at signed
    have plus := digits '+' (by simp [signed])
    exact absurd plus (by decide)
  have nonempty : render n ≠ [] := Nat.toDigits_ne_nil
  simp only [read?, unsigned, Option.getD_none, value_render]
  exact if_pos ⟨nonempty, List.all_eq_true.2 digits, small⟩

theorem lt_limit_of_read? {token : Text} {n : Nat} (found : read? token = some n) : n < limit := by
  simp only [read?] at found
  split at found
  · next shape =>
      cases found
      exact shape.2.2
  · cases found

end BuildLog.Numeral
