import BuildLog.Proofs.Recognizer.Places
import BuildLog.Proofs.Recognizer.PrintedPlaces
import Mathlib.Algebra.GroupWithZero.Nat
import Mathlib.Data.List.Induction

/-!
# Places in every spelling

A place in print has one spelling, and a reader accepts more of them: a plus sign and zeros in front
of the numbers, and blanks around each of the three parts.  It accepts no others.  What is read from
a text is a place that the text spells, so it is the text itself up to these liberties.
-/

set_option autoImplicit false

namespace BuildLog

open Text

/-! ## Spellings of a number -/

namespace Numeral

/-- A spelling of a number: a plus sign and zeros may stand in front of its digits. -/
def Spells (token : Text) (n : Nat) : Prop :=
  ∃ sign zeros, (sign = [] ∨ sign = ['+']) ∧ token = sign ++ (List.replicate zeros '0' ++ render n)

theorem exists_digitChar {c : Char} (digit : c.isDigit = true) :
    ∃ d < 10, c = Nat.digitChar d ∧ c.toNat - '0'.toNat = d := by
  have bounds : 48 ≤ c.toNat ∧ c.toNat ≤ 57 := by
    simpa [Char.isDigit, UInt32.le_iff_toNat_le] using digit
  have small : c.toNat - 48 < 10 := by omega
  refine ⟨c.toNat - 48, small, Char.toNat_inj.1 ?_, rfl⟩
  rw [Nat.toNat_digitChar_of_lt_ten small]
  omega

theorem value_concat (digits : Text) (c : Char) :
    value (digits ++ [c]) = 10 * value digits + (c.toNat - '0'.toNat) := by
  rw [value, Nat.ofDigitChars_append, Nat.ofDigitChars_cons, Nat.ofDigitChars_nil]
  rfl

theorem value_zeros_render (zeros n : Nat) :
    value (List.replicate zeros '0' ++ render n) = n := by
  rw [value, Nat.ofDigitChars_append, Nat.ofDigitChars_replicate_zero, Nat.mul_zero]
  exact value_render n

theorem exists_zeros {digits : Text} (nonempty : digits ≠ [])
    (decimal : ∀ c ∈ digits, c.isDigit = true) :
    ∃ zeros, digits = List.replicate zeros '0' ++ render (value digits) := by
  induction digits using List.reverseRecOn with
  | nil => exact absurd rfl nonempty
  | append_singleton front c ih =>
      obtain ⟨d, small, rfl, counted⟩ := exists_digitChar (decimal c (by simp))
      have last : render d = [Nat.digitChar d] := Nat.toDigits_of_lt_base small
      rw [value_concat, counted]
      by_cases single : front = []
      · subst single
        exact ⟨0, by simp [value, last]⟩
      · obtain ⟨zeros, split⟩ := ih single fun e member => decimal e (List.mem_append_left _ member)
        by_cases nothing : value front = 0
        · -- all digits so far are zeros
          refine ⟨zeros + 1, ?_⟩
          have zero : render 0 = ['0'] := Nat.toDigits_zero 10
          rw [nothing, zero, ← List.replicate_succ'] at split
          rw [nothing, split, Nat.mul_zero, Nat.zero_add, last]
        · have joined : render (value front) ++ render d = render (10 * value front + d) :=
            Nat.toDigits_append_toDigits (by decide) (Nat.pos_of_ne_zero nothing) small
          refine ⟨zeros, ?_⟩
          rw [← joined, last, ← List.append_assoc, ← split]

theorem isDigit_of_mem_zeros_render {zeros n : Nat} {c : Char}
    (member : c ∈ List.replicate zeros '0' ++ render n) : c.isDigit = true := by
  rcases List.mem_append.1 member with zero | digit
  · rw [List.eq_of_mem_replicate zero]
    rfl
  · exact isDigit_of_mem_render digit

theorem Spells.isDigit_or_plus {token : Text} {n : Nat} (spells : Spells token n) {c : Char}
    (member : c ∈ token) : c.isDigit = true ∨ c = '+' := by
  obtain ⟨sign, zeros, signed, rfl⟩ := spells
  rcases List.mem_append.1 member with front | digits
  · rcases signed with rfl | rfl
    · cases front
    · exact .inr (List.mem_singleton.1 front)
  · exact .inl (isDigit_of_mem_zeros_render digits)

theorem Spells.filled {token : Text} {n : Nat} (spells : Spells token n) : Filled token := by
  apply Filled.of_forall
  · obtain ⟨sign, zeros, -, rfl⟩ := spells
    simp [render_ne_nil]
  · intro c member
    rcases spells.isDigit_or_plus member with digit | rfl
    · exact CodeLabel.not_isBlank_of_isDecimalDigit (isDecimalDigit_of_isDigit digit)
    · decide

theorem read?_eq_some_iff {token : Text} {n : Nat} :
    read? token = some n ↔ n < limit ∧ Spells token n := by
  constructor
  · intro found
    refine ⟨lt_limit_of_read? found, ?_⟩
    simp only [read?] at found
    split at found
    · next shape =>
        obtain ⟨nonempty, decimal, -⟩ := shape
        obtain ⟨zeros, split⟩ := exists_zeros nonempty (List.all_eq_true.1 decimal)
        rw [Option.some.inj found] at split
        cases signed : after? ['+'] token with
        | none => exact ⟨[], zeros, .inl rfl, by simpa [signed] using split⟩
        | some digits =>
            rw [signed, Option.getD_some] at split
            exact ⟨['+'], zeros, .inr rfl, split ▸ after?_eq_some_iff.1 signed⟩
    · cases found
  · rintro ⟨small, sign, zeros, signed, rfl⟩
    have unsigned : (after? ['+'] (sign ++ (List.replicate zeros '0' ++ render n))).getD
        (sign ++ (List.replicate zeros '0' ++ render n)) = List.replicate zeros '0' ++ render n := by
      rcases signed with rfl | rfl
      · have plain : after? ['+'] (List.replicate zeros '0' ++ render n) = none := by
          rw [after?_eq_none_iff]
          intro starts
          have plus := isDigit_of_mem_zeros_render (starts.subset (List.mem_singleton_self '+'))
          exact absurd plus (by decide)
        rw [List.nil_append, plain, Option.getD_none]
      · rw [after?_append, Option.getD_some]
    simp only [read?, unsigned, value_zeros_render]
    refine if_pos ⟨by simp [render_ne_nil], List.all_eq_true.2 ?_, small⟩
    exact fun c member => isDigit_of_mem_zeros_render member

end Numeral

/-! ## Blanks around a text -/

namespace Text

def Padded (padded t : Text) : Prop :=
  ∃ before behind, isBlankLine before = true ∧ isBlankLine behind = true ∧
    padded = before ++ t ++ behind

theorem padded_trim (t : Text) : Padded t (trim t) := by
  obtain ⟨before, blankBefore, start⟩ := exists_blanks_trimStart t
  refine ⟨before, ((trimStart t).reverse.takeWhile isBlank).reverse, blankBefore, ?_, ?_⟩
  · rw [isBlankLine, List.all_reverse]
    exact List.all_takeWhile
  · rw [trim, trimEnd, dropEndWhile, List.append_assoc, ← List.reverse_append,
      List.takeWhile_append_dropWhile, List.reverse_reverse, ← start]

theorem Padded.trim_eq {padded t : Text} (around : Padded padded t) (trimmed : trim t = t) :
    trim padded = t := by
  obtain ⟨before, behind, blankBefore, blankBehind, rfl⟩ := around
  by_cases empty : t = []
  · subst empty
    rw [trim_eq_nil_iff, List.append_nil, isBlankLine, List.all_append]
    exact Bool.and_eq_true_iff.2 ⟨blankBefore, blankBehind⟩
  · exact Filled.trim_between ⟨empty, trimmed⟩ blankBefore blankBehind

theorem Padded.not_mem {padded t : Text} (around : Padded padded t) {c : Char}
    (solid : isBlank c = false) (absent : c ∉ t) : c ∉ padded := by
  obtain ⟨before, behind, blankBefore, blankBehind, rfl⟩ := around
  have outside : ∀ blanks, isBlankLine blanks = true → c ∉ blanks := by
    intro blanks blank member
    rw [isBlankLine_iff.1 blank c member] at solid
    cases solid
  simp [outside before blankBefore, outside behind blankBehind, absent]

end Text

theorem Numeral.read?_trim_eq_some_iff {token : Text} {n : Nat} :
    read? (trim token) = some n ↔ n < limit ∧ ∃ numeral, Padded token numeral ∧ Spells numeral n := by
  rw [read?_eq_some_iff]
  constructor
  · rintro ⟨small, spells⟩
    exact ⟨small, trim token, padded_trim token, spells⟩
  · rintro ⟨small, numeral, padded, spells⟩
    rw [padded.trim_eq spells.filled.trimmed]
    exact ⟨small, spells⟩

/-! ## Spellings of a place -/

namespace Location

/-- The three parts of a place with colons between them, each with any blanks around it and each
number in any spelling. -/
inductive Spells : Text → Location → Prop where
  | mk {place : Location} {path line column row last : Text} (pathPadded : Padded path place.path)
      (linePadded : Padded line row) (lineSpells : Numeral.Spells row place.line)
      (columnPadded : Padded column last) (columnSpells : Numeral.Spells last place.column) :
      Spells (path ++ ':' :: line ++ ':' :: column) place

theorem colon_not_mem {token numeral : Text} {n : Nat} (padded : Padded token numeral)
    (spells : Numeral.Spells numeral n) : ':' ∉ token := by
  apply padded.not_mem (by decide)
  intro member
  rcases spells.isDigit_or_plus member with digit | plus
  · exact absurd digit (by decide)
  · exact absurd plus (by decide)

/-- A place is read from a text exactly when the text spells it, blanks around the text and colons
behind it apart. -/
theorem read_eq_ok_iff {format : Format} {t : Text} {place : Location} :
    read format t = .ok place ↔
      Spells (dropEndWhile (· = ':') (trim t)) place ∧ trim place.path = place.path ∧
        place.line < Numeral.limit ∧ place.column < Numeral.limit := by
  rw [read_eq_ok_iff_colons]
  constructor
  · rintro ⟨path, ⟨split, -, -, row, last⟩, trimmed⟩
    obtain ⟨smallLine, numeral, padded, spells⟩ := Numeral.read?_trim_eq_some_iff.1 row
    obtain ⟨smallColumn, other, paddedOther, spellsOther⟩ := Numeral.read?_trim_eq_some_iff.1 last
    rw [split, trimmed, trim_trim]
    exact ⟨.mk (trimmed ▸ padded_trim path) padded spells paddedOther spellsOther, rfl, smallLine,
      smallColumn⟩
  · rintro ⟨spelled, trimmed, smallLine, smallColumn⟩
    generalize core_eq : dropEndWhile (· = ':') (trim t) = core at spelled
    cases spelled with
    | @mk _ path line column row last pathPadded linePadded lineSpells columnPadded columnSpells =>
        have lineCounts := Numeral.read?_trim_eq_some_iff.2 ⟨smallLine, row, linePadded, lineSpells⟩
        have columnCounts :=
          Numeral.read?_trim_eq_some_iff.2 ⟨smallColumn, last, columnPadded, columnSpells⟩
        exact ⟨path, .mk core_eq (colon_not_mem linePadded lineSpells)
          (colon_not_mem columnPadded columnSpells) ⟨lineCounts, columnCounts⟩,
          (pathPadded.trim_eq trimmed).symm⟩

/-- The location of a record is read back, whatever blanks stand around it and however many colons
behind it; and a place is read from a text only when the text spells it. -/
theorem reads_locations_and_spellings (format : Format) :
    (∀ (record : Record) (before behind : Text) (colons : Nat),
      trim record.uri = record.uri → record.line < 2 ^ 64 - 1 → record.position < 2 ^ 64 - 1 →
      isBlankLine before = true → isBlankLine behind = true →
      read format (before ++ (record.location ++ List.replicate colons ':' ++ behind)) =
        .ok ⟨record.uri, record.line + 1, record.position + 1⟩) ∧
      ∀ (t : Text) (place : Location), read format t = .ok place ↔
        Spells (dropEndWhile (· = ':') (trim t)) place ∧ trim place.path = place.path ∧
          place.line < 2 ^ 64 ∧ place.column < 2 ^ 64 := by
  constructor
  · intro record before behind colons trimmed smallLine smallPosition blankBefore blankBehind
    have line : record.line + 1 < Numeral.limit := Nat.add_lt_of_lt_sub smallLine
    have column : record.position + 1 < Numeral.limit := Nat.add_lt_of_lt_sub smallPosition
    have onlyColons : ∀ c ∈ List.replicate colons ':', c = ':' :=
      fun c member => List.eq_of_mem_replicate member
    have printed := read_render format ⟨record.uri, record.line + 1, record.position + 1⟩ line column
      onlyColons (isBlankLine_iff.1 blankBehind)
    rw [read_append format blankBefore, Record.location, printed]
    simp only [trimmed]
  · intro t place
    exact read_eq_ok_iff

/-- A path that ends like coordinates, and a text with a sign, zeros and blanks of several kinds. -/
theorem reads_locations_and_spellings_liberties :
    let record : Record := ⟨"C:\\a.ts:1:2".toList, 2 ^ 64 - 2, 0, "Unexpected any".toList⟩
    let spelled := "\u00a0a.ts : +007:12\t::".toList
    let place : Location := ⟨"a.ts".toList, 7, 12⟩
    trim record.uri = record.uri ∧ record.line < 2 ^ 64 - 1 ∧ record.position < 2 ^ 64 - 1 ∧
      isBlankLine ['\t', ' '] = true ∧ isBlankLine ['\n'] = true ∧
      read .eslint (['\t', ' '] ++ (record.location ++ List.replicate 3 ':' ++ ['\n'])) =
        .ok ⟨record.uri, 2 ^ 64 - 1, 1⟩ ∧
      read .eslint spelled = .ok place ∧ Spells (dropEndWhile (· = ':') (trim spelled)) place := by
  intro record spelled place
  have trimmed : trim record.uri = record.uri := by decide +kernel
  have line : record.line < 2 ^ 64 - 1 := by decide
  have position : record.position < 2 ^ 64 - 1 := by decide
  have found : read .eslint spelled = .ok place := by decide +kernel
  obtain ⟨locations, spellings⟩ := reads_locations_and_spellings .eslint
  exact ⟨trimmed, line, position, rfl, rfl,
    locations record _ _ 3 trimmed line position rfl rfl, found, (spellings spelled place).1 found |>.1⟩

end Location

end BuildLog
