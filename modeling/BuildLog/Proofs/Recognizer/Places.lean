import BuildLog.Proofs.Text.Marks
import BuildLog.Recognizer.Parts

/-!
# Accepted readings

What the readers of numerals and places accept, without the wording of the failures.
-/

set_option autoImplicit false

/-! ## Attempts that succeed

A recognizer reads a few numerals, which may fail, and then builds a record, which may fail too.
-/

namespace BuildLog

open Text

@[simp] theorem Attempt.accepted?_ok (diagnostic : Diagnostic) :
    Attempt.accepted? (.ok diagnostic) = some diagnostic := rfl

@[simp] theorem Attempt.accepted?_error (failure : Failure) :
    Attempt.accepted? (.error failure) = none := rfl

theorem Attempt.accepted?_eq_some_iff {attempt : Attempt} {diagnostic : Diagnostic} :
    attempt.accepted? = some diagnostic ↔ attempt = .ok diagnostic := by
  cases attempt with
  | error failure => simp
  | ok found => simp

theorem Attempt.accepted?_bind {α : Type} (reading : Except Failure α) (next : α → Attempt) :
    Attempt.accepted? (reading >>= next) =
      reading.toOption.bind fun a => (next a).accepted? := by
  cases reading with
  | error failure => rfl
  | ok a => rfl

theorem Location.toOption_number (format : Format) (field token : Text) :
    (number format field token).toOption = Numeral.read? (trim token) := by
  rw [number]
  cases Numeral.read? (trim token) with
  | none => rfl
  | some n => rfl

theorem Location.toOption_numbers (format : Format) (line column : Text) :
    (numbers format line column).toOption =
      (Numeral.read? (trim line)).bind fun n =>
        (Numeral.read? (trim column)).map fun m => (n, m) := by
  rw [← toOption_number format "line".toList line, ← toOption_number format "column".toList column,
    numbers]
  cases number format "line".toList line with
  | error failure => rfl
  | ok n =>
      cases number format "column".toList column with
      | error failure => rfl
      | ok m => rfl

theorem Diagnostic.accepted?_ofOneBased (format : Format) (uri : Text) (line column : Nat)
    (error : Text) :
    (ofOneBased format uri line column error).accepted? =
      if trim uri = [] ∨ trim error = [] then none
      else some ⟨format, trim uri, line - 1, column - 1, trim error⟩ := by
  rw [ofOneBased, Record.ofOneBased, Record.ofZeroBased]
  by_cases blankUri : trim uri = []
  · rw [if_pos blankUri, if_pos (.inl blankUri)]
    rfl
  · by_cases blankError : trim error = []
    · rw [if_neg blankUri, if_pos blankError, if_pos (.inr blankError)]
      rfl
    · rw [if_neg blankUri, if_neg blankError, if_neg (not_or.2 ⟨blankUri, blankError⟩)]
      rfl

theorem Diagnostic.ofOneBased_eq_ok_iff {format : Format} {uri error : Text} {line column : Nat}
    {diagnostic : Diagnostic} :
    ofOneBased format uri line column error = .ok diagnostic ↔
      (trim uri ≠ [] ∧ trim error ≠ []) ∧
        diagnostic = ⟨format, trim uri, line - 1, column - 1, trim error⟩ := by
  rw [← Attempt.accepted?_eq_some_iff, accepted?_ofOneBased, ← not_or]
  split
  · next blank => exact iff_of_false (Option.some_ne_none _).symm fun built => built.1 blank
  · next filled =>
      rw [Option.some_inj, eq_comm]
      exact ⟨fun same => ⟨filled, same⟩, And.right⟩

/-! ## Places as they are written

Tools write a place as `path:row:column`, or they put row and column into parentheses.  The readers
of places cut from the right; what they accept is said here as an equation between texts whose parts
are fixed by the characters that they must not hold.
-/

open Text

/-- What two tokens count, blanks around them apart. -/
def Counts (row column : Text) (v w : Nat) : Prop :=
  Numeral.read? (trim row) = some v ∧ Numeral.read? (trim column) = some w

/-- A text that says `path:row:column`, with blanks around it and colons behind it. -/
inductive Colons (t : Text) : Text → Nat → Nat → Prop
  | mk {path row column : Text} {v w : Nat}
      (split : dropEndWhile (· = ':') (trim t) = path ++ ':' :: row ++ ':' :: column)
      (noneInRow : ':' ∉ row) (noneInColumn : ':' ∉ column) (counts : Counts row column v w) :
      Colons t path v w

/-- A text whose last group in parentheses holds row and column, with a separator between them. -/
inductive Group (separator : Char) (t : Text) : Text → Nat → Nat → Prop
  | mk {before row column rest : Text} {v w : Nat}
      (split : t = before ++ '(' :: (row ++ separator :: column) ++ ')' :: rest)
      (closed : ')' ∉ rest) (opened : '(' ∉ row ++ separator :: column)
      (noneInRow : separator ∉ row) (counts : Counts row column v w) : Group separator t before v w

theorem Counts.unique {row column : Text} {v w n m : Nat} (counts : Counts row column v w)
    (others : Counts row column n m) : v = n ∧ w = m :=
  ⟨Option.some.inj (counts.1.symm.trans others.1), Option.some.inj (counts.2.symm.trans others.2)⟩

theorem Counts.lt_limit {row column : Text} {v w : Nat} (counts : Counts row column v w) :
    v < Numeral.limit ∧ w < Numeral.limit :=
  ⟨Numeral.lt_limit_of_read? counts.1, Numeral.lt_limit_of_read? counts.2⟩

theorem Location.lastGroup?_eq_some_iff {t before inside : Text} :
    lastGroup? t = some (before, inside) ↔
      ∃ rest, t = before ++ '(' :: inside ++ ')' :: rest ∧ ')' ∉ rest ∧ '(' ∉ inside := by
  unfold lastGroup?
  constructor
  · intro found
    split at found
    · cases found
    · next front rest cut =>
        obtain ⟨closed, last⟩ := cutLast?_eq_some_iff.1 cut
        obtain ⟨opened, inner⟩ := cutLast?_eq_some_iff.1 found
        exact ⟨rest, by rw [closed, opened], last, inner⟩
  · rintro ⟨rest, split, last, inner⟩
    rw [cutLast?_eq_some_iff.2 ⟨split, last⟩]
    exact cutLast?_eq_some_iff.2 ⟨rfl, inner⟩

theorem Location.eq_of_last_group {t before inside rest front shown tail : Text}
    (split : t = before ++ '(' :: inside ++ ')' :: rest) (closed : ')' ∉ rest)
    (opened : '(' ∉ inside) (otherSplit : t = front ++ '(' :: shown ++ ')' :: tail)
    (otherClosed : ')' ∉ tail) (otherOpened : '(' ∉ shown) : before = front ∧ inside = shown := by
  have found := lastGroup?_eq_some_iff.2 ⟨rest, split, closed, opened⟩
  rw [lastGroup?_eq_some_iff.2 ⟨tail, otherSplit, otherClosed, otherOpened⟩] at found
  cases found
  exact ⟨rfl, rfl⟩

section Unique
variable {t path front : Text} {v w n m : Nat}

theorem Colons.unique (colons : Colons t path v w) (others : Colons t front n m) :
    path = front ∧ v = n ∧ w = m := by
  obtain ⟨split, noneInRow, noneInColumn, counts⟩ := colons
  obtain ⟨otherSplit, noneInOtherRow, noneInOtherColumn, otherCounts⟩ := others
  have found := Location.parts?_eq_some_iff.2 ⟨split, noneInRow, noneInColumn⟩
  rw [Location.parts?_eq_some_iff.2 ⟨otherSplit, noneInOtherRow, noneInOtherColumn⟩] at found
  cases found
  exact ⟨rfl, counts.unique otherCounts⟩

theorem Group.unique {separator : Char} (group : Group separator t path v w)
    (others : Group separator t front n m) : path = front ∧ v = n ∧ w = m := by
  obtain ⟨split, closed, opened, noneInRow, counts⟩ := group
  obtain ⟨otherSplit, otherClosed, otherOpened, noneInOtherRow, otherCounts⟩ := others
  obtain ⟨rfl, same⟩ :=
    Location.eq_of_last_group split closed opened otherSplit otherClosed otherOpened
  obtain ⟨rfl, rfl⟩ := eq_of_split_at_first rfl noneInRow same noneInOtherRow
  exact ⟨rfl, counts.unique otherCounts⟩

end Unique

namespace Location

variable {format : Format}

theorem number_eq_ok_iff {field token : Text} {n : Nat} :
    number format field token = .ok n ↔ Numeral.read? (trim token) = some n := by
  rw [← toOption_number format field token]
  cases number format field token with
  | error failure => simp [Except.toOption]
  | ok m => simp [Except.toOption]

theorem numbers_eq_ok_iff {row column : Text} {v w : Nat} :
    numbers format row column = .ok (v, w) ↔ Counts row column v w := by
  constructor
  · intro success
    have found := toOption_numbers format row column
    rw [success] at found
    obtain ⟨n, first, later⟩ := Option.bind_eq_some_iff.1 found.symm
    obtain ⟨m, second, same⟩ := Option.map_eq_some_iff.1 later
    cases same
    exact ⟨first, second⟩
  · intro counts
    rw [numbers, number, counts.1, number, counts.2]
    rfl

theorem read_eq_ok_iff_colons {t : Text} {place : Location} :
    read format t = .ok place ↔
      ∃ path, Colons t path place.line place.column ∧ place.path = trim path := by
  unfold read
  constructor
  · intro success
    split at success
    · cases success
    · next path row column found =>
        obtain ⟨split, noneInRow, noneInColumn⟩ := parts?_eq_some_iff.1 found
        cases counted : numbers format row column with
        | error failure =>
            rw [counted] at success
            cases success
        | ok pair =>
            rw [counted] at success
            cases success
            exact ⟨path, .mk split noneInRow noneInColumn (numbers_eq_ok_iff.1 counted), rfl⟩
  · rintro ⟨path, ⟨split, noneInRow, noneInColumn, counts⟩, trimmed⟩
    rw [parts?_eq_some_iff.2 ⟨split, noneInRow, noneInColumn⟩]
    simp only [numbers_eq_ok_iff.2 counts, ← trimmed]
    rfl

theorem group_of_coordinates {separator : Char} {t inside before : Text} {v w : Nat}
    (found : lastGroup? t = some (before, inside))
    (success : coordinates format separator inside = .ok (v, w)) :
    Group separator t before v w := by
  unfold coordinates at success
  split at success
  · cases success
  · next row column cut =>
      obtain ⟨rfl, noneInRow⟩ := cut?_singleton_eq_some_iff.1 cut
      obtain ⟨rest, split, closed, opened⟩ := lastGroup?_eq_some_iff.1 found
      exact .mk split closed opened noneInRow (numbers_eq_ok_iff.1 success)

end Location

end BuildLog
