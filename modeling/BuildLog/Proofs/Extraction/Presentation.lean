import BuildLog.Proofs.Extraction.DerivedLines
import BuildLog.Proofs.Terminal.Colouring
import BuildLog.Proofs.Text.LineEndings

/-!
# What does not show in an extraction

The same build prints the same problems whether its output is coloured or not and however its lines
end.  An extraction does not tell these outputs apart: colours are gone before anything is read, and
a carriage return at the end of a line is seen by no pass.
-/

set_option autoImplicit false

namespace BuildLog

open Text

/-! ## Colours -/

theorem normalizeLine_of_coloured {line shown : Text} (coloured : Terminal.Coloured line shown)
    (plain : Terminal.hasEscape line = false) : normalizeLine shown = normalizeLine line := by
  have stripped := Terminal.strip_of_coloured coloured plain
  simp only [normalizeLine, stripped, Terminal.strip_eq_self plain]

theorem Capture.lines_congr {first second : Capture}
    (sameLogs : first.logs.map normalizeLine = second.logs.map normalizeLine)
    (sameSplit : splitLines first.plainText = splitLines second.plainText) :
    first.lines = second.lines := by
  have sameEmpty : first.logs = [] ↔ second.logs = [] := by
    rw [← List.map_eq_nil_iff (f := normalizeLine), sameLogs, List.map_eq_nil_iff]
  simp only [lines, sameEmpty, sameLogs, sameSplit]

namespace Extraction

variable (settings : Settings) (folder : Text) {text shown : Text} {logs shownLogs : List Text}

/-- Complete escape sequences, wherever they are written, do not change what is found. -/
theorem ofCapture_of_coloured (plainText : Terminal.hasEscape text = false)
    (plainLogs : ∀ line ∈ logs, Terminal.hasEscape line = false)
    (colouredText : Terminal.Coloured text shown)
    (colouredLogs : List.Forall₂ Terminal.Coloured logs shownLogs) :
    ofCapture settings { text := shown, logs := shownLogs, folder } =
      ofCapture settings { text, logs, folder } := by
  have sameText : Terminal.strip shown = Terminal.strip text := by
    rw [Terminal.strip_of_coloured colouredText plainText, Terminal.strip_eq_self plainText]
  have sameLogs : shownLogs.map normalizeLine = logs.map normalizeLine :=
    map_eq_of_forall₂ colouredLogs fun line member _ coloured =>
      normalizeLine_of_coloured coloured (plainLogs line member)
  have sameLines : Capture.lines { text := shown, logs := shownLogs, folder } =
      Capture.lines { text, logs, folder } :=
    Capture.lines_congr sameLogs (congrArg splitLines sameText)
  exact ofCapture_congr settings sameLines sameText rfl

/-- Digits stand right behind the sequences, and one line is coloured at its end. -/
theorem ofCapture_of_coloured_numeral :
    let red := "\x1b[0;31m".toList
    let bar := "\u009b3 q".toList
    let text := "src/a.ts:12:3 - error TS2391: Missing.".toList
    let shown := "src/a.ts:1".toList ++ (red ++
      ("2:3 - error TS".toList ++ (bar ++ "2391: Missing.".toList)))
    let line := "at [0m".toList
    let shownLine := "at [0m".toList ++ "\x1bM".toList
    Terminal.hasEscape text = false ∧ (∀ log ∈ [line], Terminal.hasEscape log = false) ∧
      Terminal.Coloured text shown ∧ List.Forall₂ Terminal.Coloured [line] [shownLine] ∧
      ofCapture {} { text := shown, logs := [shownLine] } =
        ofCapture {} { text, logs := [line] } := by
  intro red bar text shown line shownLine
  have plain : Terminal.hasEscape text = false := by decide
  have plainLine : ∀ log ∈ [line], Terminal.hasEscape log = false := by decide
  have isRed : Terminal.IsSequence red :=
    @Terminal.IsSequence.control _ "0;31".toList [] 'm' (.inl rfl) (List.all_eq_true.1 (by decide))
      (List.all_eq_true.1 (by decide)) (by decide)
  have isBar : Terminal.IsSequence bar :=
    @Terminal.IsSequence.control _ "3".toList " ".toList 'q' (.inr rfl)
      (List.all_eq_true.1 (by decide)) (List.all_eq_true.1 (by decide)) (by decide)
  have isShort : Terminal.IsSequence "\x1bM".toList :=
    .short (by decide : Terminal.isShortFinal 'M' = true)
  have coloured : Terminal.Coloured text shown :=
    .append_left "src/a.ts:1".toList (.insert isRed
      (.append_left "2:3 - error TS".toList (.insert isBar (.refl _))))
  have colouredLine : Terminal.Coloured line shownLine :=
    .append_left "at [0m".toList (@Terminal.Coloured.insert _ _ [] isShort .nil)
  have colouredLines : List.Forall₂ Terminal.Coloured [line] [shownLine] := .cons colouredLine .nil
  exact ⟨plain, plainLine, coloured, colouredLines,
    ofCapture_of_coloured {} [] plain plainLine coloured colouredLines⟩

/-! ## Ends of lines -/

/-- Carriage returns in front of line breaks and behind log lines do not change what is found,
whatever escape sequences there are, and be they broken off. -/
theorem ofCapture_of_returned (unreturnedText : '\r' ∉ text)
    (unreturnedLogs : ∀ line ∈ logs, '\r' ∉ line) (returnedText : Returned text shown)
    (returnedLogs : List.Forall₂ SameLine logs shownLogs) :
    ofCapture settings { text := shown, logs := shownLogs, folder } =
      ofCapture settings { text, logs, folder } := by
  have returned : Returned (Terminal.strip text) (Terminal.strip shown) := returnedText.strip
  have unreturned : '\r' ∉ Terminal.strip text := fun inside =>
    unreturnedText ((Terminal.strip_sublist text).mem inside)
  have sameSplit : splitLines (Terminal.strip shown) = splitLines (Terminal.strip text) :=
    splitLines_of_returned returned unreturned
  have sameLines : Capture.lines { text := shown, logs := shownLogs, folder } =
      Capture.lines { text, logs, folder } :=
    Capture.lines_congr (map_normalizeLine_of_sameLine returnedLogs unreturnedLogs) sameSplit
  apply ofCapture_congr_readings settings sameLines ?block ?fallback rfl
  case block =>
    simp only [Findings.ofBlock, Capture.plainText, BlockPass.attempts_of_returned returned]
  case fallback =>
    exact if_congr returned.eq_nil_iff sameLines sameSplit

/-- Sequences that are broken off in front of the carriage returns. -/
theorem ofCapture_of_returned_broken_sequence :
    let text := "\nsrc/a.ts\n12:5  Error: Unexpected any\x1b[3\n".toList
    let shown := "\nsrc/a.ts\r\n12:5  Error: Unexpected any\x1b[3\r\n".toList
    let line := "FAIL src/a.test.ts\x1b".toList
    '\r' ∉ text ∧ (∀ log ∈ [line], '\r' ∉ log) ∧ Returned text shown ∧
      List.Forall₂ SameLine [line] [line ++ ['\r']] ∧
      ofCapture {} { text := shown, logs := [line ++ ['\r']] } =
        ofCapture {} { text, logs := [line] } := by
  intro text shown line
  have unreturned : '\r' ∉ text := by decide
  have unreturnedLine : ∀ log ∈ [line], '\r' ∉ log := by decide
  have returned : Returned text shown :=
    .append_left "\nsrc/a.ts".toList (.insert
      (.append_left "12:5  Error: Unexpected any\x1b[3".toList (.insert .nil)))
  have returnedLines : List.Forall₂ SameLine [line] [line ++ ['\r']] := .cons (.inr rfl) .nil
  exact ⟨unreturned, unreturnedLine, returned, returnedLines,
    ofCapture_of_returned {} [] unreturned unreturnedLine returned returnedLines⟩

end Extraction

end BuildLog
