import BuildLog.Proofs.Recognizer.CodeLabels
import BuildLog.Proofs.Recognizer.Places
import BuildLog.Proofs.Text.Marks
import BuildLog.Recognizer.Parts

/-!
# Places that are printed and read back

A numeral is made of digits, so a place in print ends in two numerals whatever its path holds.  Read
from the right, `path:line:column` gives back its three parts, for every path and every two numbers
below the limit.
-/

set_option autoImplicit false

namespace BuildLog

open Text

/-! ## Numerals in print -/

namespace Numeral

theorem isDigit_of_mem_render {n : Nat} {c : Char} (member : c ∈ render n) : c.isDigit = true :=
  Nat.isDigit_of_mem_toDigits (by decide) (by decide) member

theorem render_ne_nil (n : Nat) : render n ≠ [] :=
  Nat.toDigits_ne_nil

theorem exists_first_digit (n : Nat) :
    ∃ d digits, render n = d :: digits ∧ d.isDigit = true := by
  obtain ⟨d, digits, split⟩ := List.exists_cons_of_ne_nil (render_ne_nil n)
  exact ⟨d, digits, split, isDigit_of_mem_render (split ▸ List.mem_cons_self)⟩

theorem not_mem_render {c : Char} (other : c.isDigit = false) (n : Nat) : c ∉ render n := by
  intro member
  rw [isDigit_of_mem_render member] at other
  cases other

theorem not_isBlank_of_mem_render {n : Nat} {c : Char} (member : c ∈ render n) :
    isBlank c = false := by
  have digit := isDecimalDigit_of_isDigit (isDigit_of_mem_render member)
  exact CodeLabel.not_isBlank_of_isDecimalDigit digit

theorem trim_render (n : Nat) : trim (render n) = render n := by
  apply trim_eq_self
  · intro c rest split
    exact not_isBlank_of_mem_render (split ▸ List.mem_cons_self)
  · intro front c split
    exact not_isBlank_of_mem_render (split ▸ List.mem_append_right front (List.mem_singleton_self c))

end Numeral

namespace Location

variable (format : Format)

theorem number_render (field : Text) {n : Nat} (small : n < Numeral.limit) :
    number format field (Numeral.render n) = .ok n := by
  rw [number, Numeral.trim_render, Numeral.read?_render small]

theorem numbers_render {line column : Nat} (smallLine : line < Numeral.limit)
    (smallColumn : column < Numeral.limit) :
    numbers format (Numeral.render line) (Numeral.render column) = .ok (line, column) := by
  rw [numbers, number_render format _ smallLine, number_render format _ smallColumn]
  rfl

/-! ## Places in print -/

theorem parts?_render (place : Location) :
    parts? place.render =
      some (place.path, Numeral.render place.line, Numeral.render place.column) := by
  have noColon : ∀ n, ':' ∉ Numeral.render n := Numeral.not_mem_render (by decide)
  exact parts?_eq_some_iff.2 ⟨rfl, noColon _, noColon _⟩

theorem dropColons_trim_render (place : Location) {colons blanks : Text}
    (allColons : ∀ c ∈ colons, c = ':') (allBlank : ∀ c ∈ blanks, isBlank c = true) :
    dropEndWhile (· = ':') (trim (place.render ++ colons ++ blanks)) =
      render { place with path := trimStart place.path } := by
  have colon : isBlank ':' = false := by decide
  have start : trimStart (place.render ++ colons ++ blanks) =
      (trimStart place.path ++ ':' :: Numeral.render place.line) ++
        (':' :: Numeral.render place.column ++ colons) ++ blanks := by
    have kept := dropWhile_append_stop colon place.path
      (Numeral.render place.line ++ ':' :: Numeral.render place.column ++ colons ++ blanks)
    simpa [trimStart, render] using kept
  have solid : ∀ c ∈ ':' :: Numeral.render place.column ++ colons, isBlank c = false := by
    intro c member
    rcases List.mem_append.1 member with inside | inside
    · rcases List.mem_cons.1 inside with rfl | digit
      · exact colon
      · exact Numeral.not_isBlank_of_mem_render digit
    · rw [allColons c inside]
      exact colon
  have digits : ∀ c ∈ Numeral.render place.column, decide (c = ':') = false := by
    intro c member
    apply decide_eq_false
    rintro rfl
    exact Numeral.not_mem_render (by decide) place.column member
  have ends : ∀ c ∈ colons, decide (c = ':') = true := fun c member =>
    decide_eq_true (allColons c member)
  have nonempty : ':' :: Numeral.render place.column ++ colons ≠ [] := by simp
  -- the blanks at the end go first, and then the colons behind the last digit
  have withoutBlanks := dropEndWhile_append nonempty solid allBlank
    (trimStart place.path ++ ':' :: Numeral.render place.line)
  have withoutColons := dropEndWhile_append (Numeral.render_ne_nil place.column) digits ends
    (trimStart place.path ++ ':' :: Numeral.render place.line ++ [':'])
  rw [trim, start, trimEnd, withoutBlanks]
  simpa [render] using withoutColons

/-- A printed place is read back, whatever its path holds; blanks around the path are not part of
it. -/
theorem read_render (place : Location) {colons blanks : Text}
    (smallLine : place.line < Numeral.limit) (smallColumn : place.column < Numeral.limit)
    (allColons : ∀ c ∈ colons, c = ':') (allBlank : ∀ c ∈ blanks, isBlank c = true) :
    read format (place.render ++ colons ++ blanks) =
      .ok { place with path := trim place.path } := by
  rw [read, dropColons_trim_render place allColons allBlank, parts?_render]
  simp only [numbers_render format smallLine smallColumn, trim_trimStart]
  rfl

theorem read_append {front : Text} (blank : isBlankLine front = true) (t : Text) :
    read format (front ++ t) = read format t := by
  have same : trim (front ++ t) = trim t := by
    rw [trim, trim, trimStart, trimStart,
      List.dropWhile_append_of_pos (isBlankLine_iff.1 blank)]
  rw [read, read, same]

/-! ## Coordinates in parentheses -/

/-- The coordinates of a place, as in `(line,column)`. -/
def group (separator : Char) (place : Location) : Text :=
  '(' :: (Numeral.render place.line ++ separator :: Numeral.render place.column) ++ [')']

theorem lastGroup?_group (front : Text) {separator : Char} (other : separator ≠ '(')
    (place : Location) : lastGroup? (front ++ place.group separator) =
      some (front, Numeral.render place.line ++ separator :: Numeral.render place.column) := by
  have digits : ∀ n, '(' ∉ Numeral.render n := Numeral.not_mem_render (by decide)
  have plain : '(' ∉ Numeral.render place.line ++ separator :: Numeral.render place.column := by
    simp [digits, other.symm]
  simpa [group] using lastGroup?_append front plain

/-! ## Places that can be read -/

/-- A place whose three parts can be read from its print. -/
structure Legible (place : Location) : Prop where
  filled : Filled place.path
  smallLine : place.line < Numeral.limit
  smallColumn : place.column < Numeral.limit

section Legible
variable {place : Location} (legible : place.Legible)
include legible

theorem Legible.read_render (colons blanks : Text) (allColons : ∀ c ∈ colons, c = ':')
    (blank : isBlankLine blanks = true) :
    read format (place.render ++ colons ++ blanks) = .ok place := by
  rw [Location.read_render format place legible.smallLine legible.smallColumn allColons
    (isBlankLine_iff.1 blank), legible.filled.trimmed]

theorem Legible.coordinates_render {separator : Char} (other : separator.isDigit = false) :
    coordinates format separator
        (Numeral.render place.line ++ separator :: Numeral.render place.column) =
      .ok (place.line, place.column) := by
  have cut := cut?_singleton (Numeral.not_mem_render other place.line)
    (Numeral.render place.column)
  rw [coordinates, cut]
  exact numbers_render format legible.smallLine legible.smallColumn

end Legible

end Location

/-! ## Records -/

theorem Diagnostic.ofOneBased_eq_ok (format : Format) {uri error : Text} (line column : Nat)
    (named : trim uri ≠ []) (spoken : trim error ≠ []) :
    ofOneBased format uri line column error =
      .ok ⟨format, trim uri, line - 1, column - 1, trim error⟩ :=
  ofOneBased_eq_ok_iff.2 ⟨⟨named, spoken⟩, rfl⟩

theorem Diagnostic.ofOneBased_of_filled (format : Format) {place : Location} {message : Text}
    (path : Filled place.path) (filled : Filled message) :
    ofOneBased format place.path place.line place.column message =
      .ok ⟨format, place.path, place.line - 1, place.column - 1, message⟩ := by
  have named : trim place.path ≠ [] := path.trimmed.symm ▸ path.nonempty
  have spoken : trim message ≠ [] := filled.trimmed.symm ▸ filled.nonempty
  rw [ofOneBased_eq_ok format place.line place.column named spoken, path.trimmed, filled.trimmed]

end BuildLog
