import BuildLog.Proofs.Extraction.Passes
import BuildLog.Proofs.Terminal.Barrier

/-!
# Log lines derived from the text

A capture without log lines is read as if the raw text, split at its line breaks, had been given as
the log lines.  The text is stripped of escape sequences before it is split in the one case and line
by line in the other; no sequence crosses a line break, so the lines are the same.  They differ only
where stripping leaves no text at all, in no line and in one empty line, and there no pass finds
anything.
-/

set_option autoImplicit false

namespace BuildLog

open Text

theorem normalizeLine_strip (line : Text) :
    normalizeLine (Terminal.strip line) = normalizeLine line := by
  simp only [normalizeLine, Terminal.strip_strip]

theorem normalizeLine_nil : normalizeLine [] = [] := by
  simp [normalizeLine]

theorem normalizeLine_sublist (line : Text) : (normalizeLine line).Sublist line := by
  unfold normalizeLine
  dsimp only
  split
  · exact (List.dropLast_sublist _).trans (Terminal.strip_sublist line)
  · exact Terminal.strip_sublist line

theorem map_normalizeLine_strip (text : Text) :
    ((Terminal.strip text).splitOn '\n').map normalizeLine =
      (text.splitOn '\n').map normalizeLine := by
  rw [Terminal.splitOn_strip Terminal.isBarrier_newline, List.map_map]
  exact List.map_congr_left fun line _ => normalizeLine_strip line

theorem splitLines_strip {text : Text} (visible : Terminal.strip text ≠ []) :
    splitLines (Terminal.strip text) = (text.splitOn '\n').map normalizeLine := by
  rw [splitLines, if_neg visible, map_normalizeLine_strip]

theorem map_normalizeLine_of_strip_eq_nil {text : Text} (invisible : Terminal.strip text = []) :
    (text.splitOn '\n').map normalizeLine = [[]] := by
  rw [← map_normalizeLine_strip, invisible, List.splitOn_nil, List.map_cons, List.map_nil,
    normalizeLine_nil]

/-! ## Captures that differ in how their lines are given -/

namespace Capture

theorem lines_of_logs {capture : Capture} (given : capture.logs ≠ []) :
    capture.lines = capture.logs.map normalizeLine := by
  rw [lines, if_neg given]

theorem lines_splitLogs (text folder : Text) :
    lines { text, folder } = lines { text, logs := text.splitOn '\n', folder } ∨
      plainText { text, folder } = [] ∧ lines { text, folder } = [] ∧
        lines { text, logs := text.splitOn '\n', folder } = [[]] := by
  have given : lines { text, logs := text.splitOn '\n', folder } =
      (text.splitOn '\n').map normalizeLine := lines_of_logs (List.splitOn_ne_nil _ _)
  have derived : lines { text, folder } = splitLines (Terminal.strip text) := by
    rw [lines, if_pos rfl, plainText]
  by_cases invisible : Terminal.strip text = []
  · right
    refine ⟨invisible, ?_, ?_⟩
    · rw [derived, splitLines, if_pos invisible]
    · rw [given, map_normalizeLine_of_strip_eq_nil invisible]
  · left
    rw [derived, given, splitLines_strip invisible]

section SameLines
variable {first second : Capture} (sameLines : first.lines = second.lines)
include sameLines

theorem isSwiftLog_congr (settings : Settings) :
    first.isSwiftLog settings = second.isSwiftLog settings := by
  rw [isSwiftLog, isSwiftLog, sameLines]

theorem scannedLines_congr : first.scannedLines = second.scannedLines := by
  rw [scannedLines, scannedLines, sameLines]

theorem fallbackLines_congr (sameText : first.plainText = second.plainText) :
    first.fallbackLines = second.fallbackLines := by
  rw [fallbackLines, fallbackLines, sameText, sameLines]

end SameLines

end Capture

namespace Extraction

theorem ofCapture_congr_readings {first second : Capture} (settings : Settings)
    (sameLines : first.lines = second.lines)
    (sameBlock : (Findings.ofBlock first).diagnostics = (Findings.ofBlock second).diagnostics)
    (sameFallback : first.fallbackLines = second.fallbackLines)
    (sameFolder : first.folder = second.folder) :
    ofCapture settings first = ofCapture settings second := by
  have sameKind := Capture.isSwiftLog_congr sameLines settings
  cases kind : second.isSwiftLog settings with
  | true =>
      rw [ofCapture_of_swiftLog kind, ofCapture_of_swiftLog (sameKind.trans kind)]
      simp only [Findings.ofSwift, sameLines]
  | false =>
      rw [ofCapture_of_not_swiftLog kind, ofCapture_of_not_swiftLog (sameKind.trans kind)]
      apply runPasses_congr
      intro pass member
      have sameScanned := Capture.scannedLines_congr sameLines
      simp only [passes, List.mem_cons, List.not_mem_nil, or_false] at member
      rcases member with rfl | rfl | rfl
      · exact sameBlock
      · simp only [Findings.ofLines, sameFolder, sameScanned]
      · simp only [Findings.ofFallback, sameFallback]

/-- An extraction depends on the lines, the stripped text and the folder of a capture only. -/
theorem ofCapture_congr {first second : Capture} (settings : Settings)
    (sameLines : first.lines = second.lines) (sameText : first.plainText = second.plainText)
    (sameFolder : first.folder = second.folder) :
    ofCapture settings first = ofCapture settings second := by
  have sameBlock :
      (Findings.ofBlock first).diagnostics = (Findings.ofBlock second).diagnostics := by
    simp only [Findings.ofBlock, sameText]
  exact ofCapture_congr_readings settings sameLines sameBlock
    (Capture.fallbackLines_congr sameLines sameText) sameFolder

/-! ## No line and one empty line -/

theorem isSwiftLog_empty_line {settings : Settings} {capture : Capture}
    (empty : capture.lines = [] ∨ capture.lines = [[]]) :
    capture.isSwiftLog settings = false := by
  by_cases sentinel : settings.xcodeSentinel = []
  · simp [Capture.isSwiftLog, sentinel]
  · have absent : occursIn settings.xcodeSentinel [] = false := by
      rw [Bool.eq_false_iff]
      intro present
      exact sentinel (List.infix_nil.1 (occursIn_iff.1 present))
    rcases empty with noLine | oneLine
    · simp [Capture.isSwiftLog, noLine]
    · simp [Capture.isSwiftLog, oneLine, absent]

theorem diagnostics_ofBlock_of_invisible {capture : Capture} (invisible : capture.plainText = []) :
    (Findings.ofBlock capture).diagnostics = [] := by
  simp only [Findings.ofBlock, invisible]
  rfl

theorem diagnostics_ofLines_empty_line (settings : Settings) {capture : Capture}
    (empty : capture.lines = [] ∨ capture.lines = [[]]) :
    (Findings.ofLines settings capture).diagnostics = [] := by
  rcases empty with noLine | oneLine
  · have scanned : capture.scannedLines = [] := by rw [Capture.scannedLines, noLine]
    simp only [Findings.ofLines, scanned]
    rfl
  · have scanned : capture.scannedLines = [[]] := by rw [Capture.scannedLines, oneLine]; rfl
    simp only [Findings.ofLines, scanned]
    rfl

theorem diagnostics_ofFallback_empty_line {capture : Capture}
    (invisible : capture.plainText = []) (empty : capture.lines = [] ∨ capture.lines = [[]]) :
    (Findings.ofFallback capture).diagnostics = [] := by
  have same : capture.fallbackLines = capture.lines := by
    rw [Capture.fallbackLines, if_pos invisible]
  rcases empty with noLine | oneLine
  · simp only [Findings.ofFallback, same, noLine]
    rfl
  · simp only [Findings.ofFallback, same, oneLine]
    rfl

theorem ofCapture_empty_line {capture : Capture} (settings : Settings)
    (invisible : capture.plainText = []) (empty : capture.lines = [] ∨ capture.lines = [[]]) :
    ofCapture settings capture = {} := by
  have blocks := diagnostics_ofBlock_of_invisible invisible
  have scanned := diagnostics_ofLines_empty_line settings empty
  have fallback := diagnostics_ofFallback_empty_line invisible empty
  rw [ofCapture_of_not_swiftLog (isSwiftLog_empty_line empty), passes,
    runPasses_of_nothing _ blocks, runPasses_of_nothing _ scanned,
    runPasses_of_nothing _ fallback]
  rfl

/-- Without log lines the raw text, split at its line breaks, is read in their place. -/
theorem ofCapture_splitLogs (settings : Settings) (text folder : Text) :
    ofCapture settings { text, logs := [], folder } =
      ofCapture settings { text, logs := text.splitOn '\n', folder } := by
  rcases Capture.lines_splitLogs text folder with same | ⟨invisible, noLine, oneLine⟩
  · exact ofCapture_congr settings same rfl rfl
  · have derived : ofCapture settings { text, folder } = {} :=
      ofCapture_empty_line settings invisible (.inl noLine)
    have given : ofCapture settings { text, logs := text.splitOn '\n', folder } = {} :=
      ofCapture_empty_line settings invisible (.inr oneLine)
    exact derived.trans given.symm

end Extraction

end BuildLog
