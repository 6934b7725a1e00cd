import BuildLog.Proofs.Extraction.Provenance
import BuildLog.Proofs.Recognizer.PrintedPlaces
import BuildLog.Report

/-!
# One record, one line

Log lines are lines: none of them holds a line break, and neither does a line that is split off the
text.  Whatever a recognizer joins, holds back or shortens, it works inside such lines, so no file
and no message holds a line break either.  A report in print is therefore cut into its records again
by its line breaks.
-/

set_option autoImplicit false

namespace BuildLog

open Text

structure Record.Unbroken (record : Record) : Prop where
  uri : '\n' ∉ record.uri
  error : '\n' ∉ record.error

/-! ## The lines of a capture -/

theorem newline_not_mem_normalizeLine {line : Text} (unbroken : '\n' ∉ line) :
    '\n' ∉ normalizeLine line :=
  fun inside => unbroken ((normalizeLine_sublist line).mem inside)

theorem Capture.newline_not_mem_of_mem_sourceLines {capture : Capture}
    (unbroken : ∀ log ∈ capture.logs, '\n' ∉ log) {line : Text}
    (member : line ∈ capture.sourceLines) : '\n' ∉ line := by
  rcases List.mem_append.1 member with log | text
  · obtain ⟨raw, inside, rfl⟩ := List.mem_map.1 log
    exact newline_not_mem_normalizeLine (unbroken raw inside)
  · unfold splitLines at text
    split at text
    · cases text
    · obtain ⟨raw, inside, rfl⟩ := List.mem_map.1 text
      exact newline_not_mem_normalizeLine (piece_of_mem_splitOn inside).1

/-! ## Reports -/

namespace Record

theorem display_eq (record : Record) :
    record.display = record.uri ++ ':' :: Numeral.render (record.line + 1) ++
      ':' :: Numeral.render (record.position + 1) ++ ": ".toList ++ record.error :=
  rfl

theorem Unbroken.newline_not_mem_display {record : Record} (unbroken : record.Unbroken) :
    '\n' ∉ record.display := by
  have numeral : ∀ n, '\n' ∉ Numeral.render n := Numeral.not_mem_render (by decide)
  simp [display_eq, unbroken.uri, unbroken.error, numeral]

end Record

namespace Report

theorem splitOn_renderText {records : List Record}
    (unbroken : ∀ record ∈ records, record.Unbroken) :
    (renderText records).splitOn '\n' = records.map Record.display ++ [[]] := by
  induction records with
  | nil => rfl
  | cons record records ih =>
      obtain ⟨here, later⟩ := List.forall_mem_cons.1 unbroken
      have first : renderText (record :: records) =
          record.display ++ '\n' :: renderText records := by
        simp [renderText]
      rw [first, splitOn_append_cons here.newline_not_mem_display, ih later]
      rfl

end Report

/-! ## Extractions -/

namespace Extraction

variable {settings : Settings} {capture : Capture}

theorem unbroken_of_mem_diagnostics (unbroken : ∀ log ∈ capture.logs, '\n' ∉ log)
    {diagnostic : Diagnostic} (found : diagnostic ∈ (ofCapture settings capture).diagnostics) :
    diagnostic.record.Unbroken := by
  have sourced := sourced_of_mem_diagnostics found
  have kept : ∀ line ∈ capture.sourceLines, ∀ c ∈ line, c ≠ '\n' := by
    rintro line member c inside rfl
    exact Capture.newline_not_mem_of_mem_sourceLines unbroken member inside
  have uri := sourced.uri.forall_mem kept
  have error := sourced.error.forall_mem kept (by decide) (by decide)
  exact ⟨fun inside => uri _ inside rfl, fun inside => error _ inside rfl⟩

/-- No diagnostic holds a line break, so a report in print has exactly one line for each record, in
their order, and every line is ended. -/
theorem one_line_per_record (settings : Settings) (unbroken : ∀ log ∈ capture.logs, '\n' ∉ log) :
    let extraction := ofCapture settings capture
    (∀ diagnostic ∈ extraction.diagnostics,
        '\n' ∉ diagnostic.record.uri ∧ '\n' ∉ diagnostic.record.error) ∧
      (Report.renderText extraction.records).splitOn '\n' =
        extraction.records.map (fun record => record.uri ++
          ':' :: Numeral.render (record.line + 1) ++
          ':' :: Numeral.render (record.position + 1) ++ ": ".toList ++ record.error) ++ [[]] := by
  intro extraction
  have diagnostics : ∀ diagnostic ∈ extraction.diagnostics, diagnostic.record.Unbroken :=
    fun diagnostic found => unbroken_of_mem_diagnostics unbroken found
  have records : ∀ record ∈ extraction.records, record.Unbroken := by
    intro record member
    obtain ⟨diagnostic, found, rfl⟩ := List.mem_map.1 member
    exact diagnostics diagnostic found
  constructor
  · intro diagnostic found
    exact ⟨(diagnostics diagnostic found).uri, (diagnostics diagnostic found).error⟩
  · rw [Report.splitOn_renderText records]
    exact congrArg (· ++ [[]]) (List.map_congr_left fun record _ => record.display_eq)

/-- Two messages that are joined from two log lines each, beside a text of several lines. -/
theorem one_line_per_record_joined :
    let capture : Capture :=
      { text := "first line\nsecond line".toList
        logs := ["/proj/A.java:3: error: cannot find symbol".toList, "  symbol: class B".toList,
          "/proj/C.java:9: error: missing".toList, "\treturn value\r".toList]
        folder := "/proj".toList }
    let extraction := ofCapture {} capture
    extraction.diagnostics =
        [⟨.java, "/proj/A.java".toList, 2, 0, "cannot find symbol symbol: class B".toList⟩,
          ⟨.java, "/proj/C.java".toList, 8, 0, "missing return value".toList⟩] ∧
      (∀ log ∈ capture.logs, '\n' ∉ log) ∧
      (∀ diagnostic ∈ extraction.diagnostics,
        '\n' ∉ diagnostic.record.uri ∧ '\n' ∉ diagnostic.record.error) ∧
      (Report.renderText extraction.records).splitOn '\n' =
        extraction.records.map (fun record => record.uri ++
          ':' :: Numeral.render (record.line + 1) ++
          ':' :: Numeral.render (record.position + 1) ++ ": ".toList ++ record.error) ++ [[]] := by
  intro capture extraction
  have unbroken : ∀ log ∈ capture.logs, '\n' ∉ log := by decide
  exact ⟨by decide +kernel, unbroken, one_line_per_record {} unbroken⟩

end Extraction

end BuildLog
