import BuildLog.Proofs.Recognizer.CodeLabels
import BuildLog.Proofs.Recognizer.Places
import BuildLog.Proofs.Text.Marks
import BuildLog.Recognizer.Runners

/-!
# Lint entries and their files

Whether a line is a lint entry does not depend on the file above it: the shape and the two numerals
decide.  The file only has to have a name.
-/

set_option autoImplicit false

namespace BuildLog.Lint

open Text

def isEntry (line : Text) : Bool :=
  (Entry.read? (trim line)).any fun entry =>
    (Numeral.read? (trim entry.line)).isSome && (Numeral.read? (trim entry.column)).isSome

/-! ## What an entry shows -/

/-- A line that says `row:column severity message`, with blanks between the parts. -/
structure Entry.Shown (entry : Entry) (t : Text) : Prop where
  split : ∃ gap severity space, t = entry.line ++ ':' :: (entry.column ++
    (gap ++ (severity ++ (space ++ entry.message)))) ∧ (gap ≠ [] ∧ isBlankLine gap = true) ∧
    (severity = "error".toList ∨ severity = "warning".toList) ∧ isBlankLine space = true
  row : ∀ c ∈ entry.line, isDecimalDigit c = true
  column : ∀ c ∈ entry.column, isDecimalDigit c = true
  message : entry.message ≠ []

section Shown
variable {t rest : Text}

theorem eq_of_digits? {digits : Text} (found : digits? t = some (digits, rest)) :
    t = digits ++ rest ∧ ∀ c ∈ digits, isDecimalDigit c = true := by
  unfold digits? at found
  split at found
  · cases found
  · cases found
    exact ⟨List.takeWhile_append_dropWhile.symm, fun _ member => List.mem_takeWhile_imp member⟩

theorem eq_of_afterBlanks? (found : afterBlanks? t = some rest) :
    ∃ gap, t = gap ++ rest ∧ gap ≠ [] ∧ isBlankLine gap = true := by
  unfold afterBlanks? at found
  split at found
  · next c t =>
      split at found
      · next blank =>
          cases found
          obtain ⟨blanks, allBlank, split⟩ := exists_blanks_trimStart t
          refine ⟨c :: blanks, by rw [List.cons_append, ← split], List.cons_ne_nil c blanks, ?_⟩
          rw [isBlankLine, List.all_cons, blank]
          exact allBlank
      · cases found
  · cases found

theorem eq_of_afterSeverity? (found : afterSeverity? t = some rest) :
    ∃ severity, t = severity ++ rest ∧
      (severity = "error".toList ∨ severity = "warning".toList) := by
  rcases Option.or_eq_some_iff.1 found with error | ⟨-, warning⟩
  · exact ⟨_, after?_eq_some_iff.1 error, .inl rfl⟩
  · exact ⟨_, after?_eq_some_iff.1 warning, .inr rfl⟩

theorem Entry.shown_of_read? {entry : Entry} (found : Entry.read? t = some entry) :
    entry.Shown t := by
  simp only [Entry.read?, Option.bind_eq_bind, Option.bind_eq_some_iff] at found
  obtain ⟨⟨row, afterRow⟩, rowFound, afterColon, colon, ⟨column, afterColumn⟩, columnFound,
    afterGap, gapFound, afterSeverity, severityFound, message, spaceFound, kept⟩ := found
  split at kept
  · cases kept
  · next spoken =>
      cases kept
      obtain ⟨rfl, rowDigits⟩ := eq_of_digits? rowFound
      obtain rfl := after?_eq_some_iff.1 colon
      obtain ⟨rfl, columnDigits⟩ := eq_of_digits? columnFound
      obtain ⟨gap, rfl, wide, blank⟩ := eq_of_afterBlanks? gapFound
      obtain ⟨severity, rfl, word⟩ := eq_of_afterSeverity? severityFound
      obtain ⟨space, rfl, -, spread⟩ := eq_of_afterBlanks? spaceFound
      exact ⟨⟨gap, severity, space, rfl, ⟨wide, blank⟩, word, spread⟩, rowDigits, columnDigits,
        fun empty => spoken (.inl empty)⟩

theorem Entry.Shown.suffix {entry : Entry} (shown : entry.Shown t) : entry.message <:+ t := by
  obtain ⟨gap, severity, space, rfl, -⟩ := shown.split
  exact ⟨entry.line ++ ':' :: entry.column ++ gap ++ severity ++ space, by simp⟩

theorem takeWhile_digits {digits gap : Text} (all : ∀ c ∈ digits, isDecimalDigit c = true)
    (wide : gap ≠ []) (blank : isBlankLine gap = true) :
    (digits ++ (gap ++ rest)).takeWhile isDecimalDigit = digits := by
  obtain ⟨c, gap, rfl⟩ := List.exists_cons_of_ne_nil wide
  have stop : ¬ isDecimalDigit c = true := by
    intro digit
    have solid := CodeLabel.not_isBlank_of_isDecimalDigit digit
    rw [isBlankLine_iff.1 blank c List.mem_cons_self] at solid
    cases solid
  rw [List.takeWhile_append_of_pos all, List.cons_append, List.takeWhile_cons_of_neg stop,
    List.append_nil]

/-- The two numerals that a line shows are its own, whatever message is seen in it. -/
theorem Entry.Shown.unique {entry other : Entry} (shown : entry.Shown t) (others : other.Shown t) :
    entry.line = other.line ∧ entry.column = other.column := by
  have noColon : ∀ {digits : Text}, (∀ c ∈ digits, isDecimalDigit c = true) → ':' ∉ digits :=
    fun all member => absurd (all ':' member) (by decide)
  obtain ⟨gap, severity, space, split, ⟨wide, blank⟩, -⟩ := shown.split
  obtain ⟨otherGap, otherSeverity, otherSpace, otherSplit, ⟨otherWide, otherBlank⟩, -⟩ :=
    others.split
  have rows := cut?_singleton (noColon shown.row)
    (entry.column ++ (gap ++ (severity ++ (space ++ entry.message))))
  rw [← split, otherSplit, cut?_singleton (noColon others.row)] at rows
  obtain ⟨row, behind⟩ := Prod.mk.inj (Option.some.inj rows)
  have columns := congrArg (List.takeWhile isDecimalDigit) behind
  rw [takeWhile_digits others.column otherWide otherBlank,
    takeWhile_digits shown.column wide blank] at columns
  exact ⟨row.symm, columns.symm⟩

end Shown

theorem trim_message_ne_nil {line : Text} {entry : Entry}
    (found : Entry.read? (trim line) = some entry) : trim entry.message ≠ [] := by
  have shown := Entry.shown_of_read? found
  exact trim_ne_nil_of_suffix shown.suffix shown.message

theorem isSome_accepted?_readEntry (format : Format) {file : Text} (named : trim file ≠ [])
    (line : Text) :
    (readEntry format file (trim line)).accepted?.isSome = isEntry line := by
  rw [readEntry, isEntry]
  cases found : Entry.read? (trim line) with
  | none => rfl
  | some entry =>
      have spoken := trim_message_ne_nil found
      simp only [Attempt.accepted?_bind, Location.toOption_numbers, Option.any_some,
        Diagnostic.accepted?_ofOneBased, if_neg (not_or.2 ⟨named, spoken⟩)]
      cases Numeral.read? (trim entry.line) with
      | none => rfl
      | some n =>
          cases Numeral.read? (trim entry.column) with
          | none => rfl
          | some m => rfl

end BuildLog.Lint
