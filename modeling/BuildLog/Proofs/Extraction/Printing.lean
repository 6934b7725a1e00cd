import BuildLog.Proofs.Bytewise.Offset
import BuildLog.Proofs.Extraction.Provenance
import BuildLog.Report
import BuildLog.Summary
import Mathlib.Algebra.Group.Nat.Defs

/-!
# Coordinates in print

A record counts from zero and is printed counting from one, so one is added to each coordinate, and
the sum has to be a machine word.  Coordinates come from numerals of machine words and one was taken
off when the record was built, so the sum is the number that the tool has printed, or one where the
tool has printed zero.
-/

set_option autoImplicit false

namespace BuildLog

open Text

namespace Bytewise

/-! ## Printing in machine words -/

def location (record : Record) : Checked Text := do
  let line ← add record.line 1
  let column ← add record.position 1
  return Location.render ⟨record.uri, line, column⟩

def display (record : Record) : Checked Text := do
  let place ← location record
  return place ++ ": ".toList ++ record.error

def renderText : List Record → Checked Text
  | [] => return []
  | record :: records => do
    let line ← display record
    let lines ← renderText records
    return line ++ ['\n'] ++ lines

def firstPlace? (summary : Summary) : Checked (Option Text) :=
  match summary.first with
  | none => return none
  | some record => do
    let place ← location record
    return some ("first=".toList ++ place)

def compact (summary : Summary) : Checked Text :=
  if summary.total = 0 then return "[no errors]".toList
  else do
    let first ← firstPlace? summary
    return " | ".toList.intercalate
      ([summary.heading, summary.formatCounts, Summary.counted summary.files.length "file".toList] ++
        first.toList)

structure Printable (record : Record) : Prop where
  line : record.line + 1 < Numeral.limit
  position : record.position + 1 < Numeral.limit

section Record
variable {record : Record} (printable : Printable record)
include printable

theorem location_eq_ok : location record = .ok record.location := by
  rw [location, add_eq_ok printable.line, ok_bind, add_eq_ok printable.position, ok_bind]
  rfl

theorem display_eq_ok : display record = .ok record.display := by
  rw [display, location_eq_ok printable, ok_bind]
  rfl

end Record

theorem renderText_eq_ok {records : List Record}
    (printable : ∀ record ∈ records, Printable record) :
    renderText records = .ok (Report.renderText records) := by
  induction records with
  | nil => rfl
  | cons record records ih =>
      have here := display_eq_ok (printable record List.mem_cons_self)
      have later := ih fun other member => printable other (List.mem_cons_of_mem record member)
      rw [renderText, here, ok_bind, later, ok_bind]
      rfl

theorem compact_eq_ok {summary : Summary}
    (printable : ∀ record, summary.first = some record → Printable record) :
    compact summary = .ok summary.compact := by
  have first : firstPlace? summary = .ok summary.firstPlace? := by
    rw [firstPlace?, Summary.firstPlace?]
    cases found : summary.first with
    | none => rfl
    | some record =>
        simp only [location_eq_ok (printable record found), ok_bind]
        rfl
  rw [compact, Summary.compact]
  split
  · rfl
  · rw [first, ok_bind]
    rfl

end Bytewise

/-! ## Coordinates of a call -/

section Coordinates
variable {call : Call} {path message : Text} {v w : Nat} {diagnostic : Diagnostic}

theorem Colons.lt_limit {t : Text} (colons : Colons t path v w) :
    v < Numeral.limit ∧ w < Numeral.limit := by
  obtain ⟨-, -, -, counts⟩ := colons
  exact counts.lt_limit

theorem Group.lt_limit {separator : Char} {t : Text} (group : Group separator t path v w) :
    v < Numeral.limit ∧ w < Numeral.limit := by
  obtain ⟨-, -, -, -, counts⟩ := group
  exact counts.lt_limit

theorem Call.Reads.lt_limit (reads : call.Reads path v w message) :
    v < Numeral.limit ∧ w < Numeral.limit := by
  have positive : 0 < Numeral.limit := by decide
  cases reads with
  | entry shown counts => exact counts.lt_limit
  | report label split first counts => exact counts.lt_limit
  | labelled split counts dash => exact counts.lt_limit
  | swift split counts marked => exact counts.lt_limit
  | wrapped group | parenthesized group | syntaxError _ _ group => exact group.lt_limit
  | component colons | batch colons | frame _ _ _ colons | nested colons | block colons
  | compilation _ _ colons => exact colons.lt_limit
  | java label split last counts => exact ⟨Numeral.lt_limit_of_read? counts, positive⟩
  | title => exact ⟨positive, positive⟩

theorem Call.printable_of_accepted (accepted : call.attempt = .ok diagnostic) :
    Bytewise.Printable diagnostic.record := by
  obtain ⟨path, v, w, message, reads, built⟩ := says_of_accepted accepted
  obtain ⟨smallRow, smallColumn⟩ := reads.lt_limit
  have room : 1 < Numeral.limit := by decide
  obtain ⟨-, rfl⟩ := Diagnostic.ofOneBased_eq_ok_iff.1 built
  constructor
  · dsimp only
    omega
  · dsimp only
    omega

theorem Call.Reads.location_eq (reads : call.Reads path v w message)
    (accepted : call.attempt = .ok diagnostic) :
    diagnostic.record.location = Location.render ⟨trim path, max v 1, max w 1⟩ := by
  obtain ⟨front, n, m, other, others, built⟩ := says_of_accepted accepted
  obtain ⟨rfl, rfl, rfl⟩ := reads.unique others
  obtain ⟨-, rfl⟩ := Diagnostic.ofOneBased_eq_ok_iff.1 built
  have row : v - 1 + 1 = max v 1 := by omega
  have column : w - 1 + 1 = max w 1 := by omega
  rw [Record.location, row, column]

end Coordinates

/-! ## Extractions -/

namespace Extraction

/-- No coordinate of an extraction is too large to be printed.  Each diagnostic comes from a call at
the lines that reads coordinates, and what is printed for a number that this call reads is that
number, or one for a zero. -/
theorem printed_coordinates (settings : Settings) (capture : Capture) :
    let extraction := ofCapture settings capture
    let summary := Summary.ofExtraction extraction
    (∀ diagnostic ∈ extraction.diagnostics,
      diagnostic.record.line ≤ 2 ^ 64 - 2 ∧ diagnostic.record.position ≤ 2 ^ 64 - 2 ∧
        Bytewise.location diagnostic.record = .ok diagnostic.record.location ∧
        Bytewise.display diagnostic.record = .ok diagnostic.record.display ∧
        ∃ call : Call, call.Within capture.sourceLines ∧ call.attempt = .ok diagnostic ∧
          (∃ path v w message, call.Reads path v w message) ∧
          ∀ path v w message, call.Reads path v w message →
            diagnostic.record.location = Location.render ⟨trim path, max v 1, max w 1⟩) ∧
      Bytewise.renderText extraction.records = .ok (Report.renderText extraction.records) ∧
      Bytewise.compact summary = .ok summary.compact := by
  intro extraction summary
  have printable : ∀ record ∈ extraction.records, Bytewise.Printable record := by
    intro record member
    obtain ⟨diagnostic, found, rfl⟩ := List.mem_map.1 member
    obtain ⟨call, -, accepted⟩ := recognized_of_mem_diagnostics found
    exact Call.printable_of_accepted accepted
  refine ⟨?_, Bytewise.renderText_eq_ok printable, Bytewise.compact_eq_ok ?_⟩
  · intro diagnostic found
    obtain ⟨call, within, accepted⟩ := recognized_of_mem_diagnostics found
    have small := Call.printable_of_accepted accepted
    have line : diagnostic.record.line + 1 < 2 ^ 64 := small.line
    have position : diagnostic.record.position + 1 < 2 ^ 64 := small.position
    obtain ⟨path, v, w, message, reads, -⟩ := Call.says_of_accepted accepted
    refine ⟨by omega, by omega, Bytewise.location_eq_ok small, Bytewise.display_eq_ok small, call,
      within, accepted, ⟨path, v, w, message, reads⟩, ?_⟩
    exact fun _ _ _ _ others => others.location_eq accepted
  · intro record first
    exact printable record (List.mem_of_head? first)

/-- The two ends of what a numeral can say. -/
theorem printed_coordinates_zero_and_largest :
    let line := "SyntaxError: a.js: Unexpected token (0:18446744073709551615)".toList
    let capture : Capture := { logs := [line] }
    let call : Call := .syntaxError (line.drop 12)
    let diagnostic : Diagnostic :=
      ⟨.syntaxError, "a.js".toList, 0, 2 ^ 64 - 2, "Unexpected token".toList⟩
    diagnostic ∈ (ofCapture {} capture).diagnostics ∧ call.attempt = .ok diagnostic ∧
      call.Reads " a.js".toList 0 (2 ^ 64 - 1) " Unexpected token ".toList ∧
      Bytewise.location diagnostic.record = .ok "a.js:1:18446744073709551615".toList ∧
      Bytewise.compact (Summary.ofExtraction (ofCapture {} capture)) =
        .ok (Summary.ofExtraction (ofCapture {} capture)).compact := by
  intro line capture call diagnostic
  have found : diagnostic ∈ (ofCapture {} capture).diagnostics := by decide +kernel
  have accepted : call.attempt = .ok diagnostic := by decide +kernel
  have counts : Counts "0".toList "18446744073709551615".toList 0 (2 ^ 64 - 1) :=
    ⟨by decide +kernel, by decide +kernel⟩
  have reads : call.Reads " a.js".toList 0 (2 ^ 64 - 1) " Unexpected token ".toList :=
    .syntaxError rfl (by decide) (.mk rfl List.not_mem_nil (by decide) (by decide) counts)
  have printed : diagnostic.record.location = "a.js:1:18446744073709551615".toList := by
    decide +kernel
  obtain ⟨each, -, compact⟩ := printed_coordinates {} capture
  refine ⟨found, accepted, reads, ?_, compact⟩
  rw [← printed]
  exact (each diagnostic found).2.2.1

end Extraction

end BuildLog
