import BuildLog.Json.Reader
import BuildLog.Json.Writer
import BuildLog.Proofs.Recognizer.PrintedPlaces

/-!
# Strings and numbers of JSON

A string is written character by character, and each character is read back from what is written for
it: quotes, backslashes and control characters from their escapes, every other one as it stands.  A
number is written without a zero in front, and is read back when no character follows that could
belong to a number.
-/

set_option autoImplicit false

namespace BuildLog.Json

open Text

/-! ## Strings -/

theorem hexNumber?_hexPair :
    ∀ n, n < 0x20 → hexNumber? ('0' :: '0' :: hexPair n) = some n := by
  decide

theorem readString_cons_plain {c : Char} (noQuote : c ≠ '"') (noBackslash : c ≠ '\\')
    (shown : 0x20 ≤ c.toNat) (rest : Text) :
    readString (c :: rest) = prepend c (readString rest) := by
  rw [readString.eq_def]
  split
  · next empty => cases empty
  · next quoted =>
      cases quoted
      exact absurd rfl noQuote
  · next escaped =>
      cases escaped
      exact absurd rfl noBackslash
  · next escaped =>
      cases escaped
      exact absurd rfl noBackslash
  · next d tail _ _ _ same =>
      cases same
      rw [if_neg]
      rintro (control | backslash)
      · omega
      · exact noBackslash backslash

theorem readString_escapedChar (c : Char) (rest : Text) :
    readString (escapedChar c ++ rest) = prepend c (readString rest) := by
  rw [escapedChar]
  split
  · next quote => rw [quote]; rfl
  split
  · next backslash => rw [backslash]; rfl
  split
  · next backspace => rw [backspace]; rfl
  split
  · next tab => rw [tab]; rfl
  split
  · next lineFeed => rw [lineFeed]; rfl
  split
  · next formFeed => rw [formFeed]; rfl
  split
  · next carriageReturn => rw [carriageReturn]; rfl
  split
  · next control =>
      have code := hexNumber?_hexPair c.toNat control
      have noSurrogate : ¬ (0xD800 ≤ c.toNat ∧ c.toNat ≤ 0xDBFF) := by omega
      rw [hexPair] at code ⊢
      simp only [List.cons_append, List.nil_append, readString, code, if_neg noSurrogate,
        charOf?_toNat, Option.bind_some]
  · next noQuote noBackslash _ _ _ _ _ shown =>
      exact readString_cons_plain noQuote noBackslash (Nat.le_of_not_lt shown) rest

theorem readString_flatMap_escapedChar (t rest : Text) :
    readString (t.flatMap escapedChar ++ '"' :: rest) = some (t, rest) := by
  induction t with
  | nil => rfl
  | cons c t ih =>
      rw [List.flatMap_cons, List.append_assoc, readString_escapedChar, ih]
      rfl

theorem writeString_append (t rest : Text) :
    writeString t ++ rest = '"' :: (t.flatMap escapedChar ++ '"' :: rest) := by
  simp [writeString]

/-! ## Numbers -/

/-- What may follow a number: nothing, or a character that is no part of any number. -/
def EndsNumber (rest : Text) : Prop :=
  ∀ c ∈ rest.head?, isNumeric c = false

theorem isNumeric_of_isDigit {c : Char} (digit : c.isDigit = true) : isNumeric c = true := by
  simp [isNumeric, digit]

/-- The digits of a positive number start with the digit of what is left of it when all others are
taken away, and that is not zero. -/
theorem head?_render_ne_zero : ∀ n : Nat, n ≠ 0 → (Numeral.render n).head? ≠ some '0' := by
  intro n
  induction n using Nat.strong_induction_on with
  | _ n shorter =>
      intro positive
      rcases Nat.lt_or_ge n 10 with single | several
      · rw [Numeral.render, Nat.toDigits_of_lt_base single]
        have other : ∀ d, d < 10 → d ≠ 0 → Nat.digitChar d ≠ '0' := by decide
        intro zero
        exact other n single positive (Option.some.inj zero)
      · have front := shorter (n / 10) (by omega) (by omega)
        have nonempty := Numeral.render_ne_nil (n / 10)
        rw [Numeral.render] at front nonempty ⊢
        rw [Nat.toDigits_of_base_le (by decide) several, List.head?_append_of_ne_nil _ nonempty]
        exact front

theorem isWhole_render (n : Nat) : isWhole (Numeral.render n) = true := by
  have digits : isDigits (Numeral.render n) = true := by
    have all : ∀ c ∈ Numeral.render n, c.isDigit = true :=
      fun c member => Numeral.isDigit_of_mem_render member
    simp [isDigits, Numeral.render_ne_nil, List.all_eq_true.2 all]
  rw [isWhole, digits]
  by_cases zero : n = 0
  · rw [zero]
    decide
  · simp [head?_render_ne_zero n zero]

theorem readNumber_render (n : Nat) {rest : Text} (ends : EndsNumber rest) :
    readNumber (Numeral.render n ++ rest) = some (natural n, rest) := by
  have numeric : ∀ c ∈ Numeral.render n, isNumeric c = true :=
    fun c member => isNumeric_of_isDigit (Numeral.isDigit_of_mem_render member)
  have stop : rest.takeWhile isNumeric = [] ∧ rest.dropWhile isNumeric = rest := by
    cases rest with
    | nil => exact ⟨rfl, rfl⟩
    | cons c rest =>
        have other := ends c rfl
        simp [other]
  rw [readNumber, List.takeWhile_append_of_pos numeric, List.dropWhile_append_of_pos numeric,
    stop.1, stop.2, List.append_nil, numberOf?, if_pos (isWhole_render n), Numeral.value_render]
  rfl

end BuildLog.Json
