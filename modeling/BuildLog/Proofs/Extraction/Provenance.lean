import BuildLog.Proofs.Extraction.DerivedLines
import BuildLog.Proofs.Pass.Sources

/-!
# Where the texts of an extraction stand

Every pass reads normalized lines: the log lines, or the lines of the text.  A normalized line has
no escape sequences left, and recognizers only cut pieces out of lines, so no file and no message of
an extraction holds the start of a sequence, and all of them can be found in the output again.
-/

set_option autoImplicit false

namespace BuildLog

open Text

/-! ## Escape sequences -/

namespace Terminal

theorem hasEscape_of_subset {t more : Text} (inside : t ⊆ more) (plain : hasEscape more = false) :
    hasEscape t = false := by
  rw [hasEscape, List.any_eq_false] at plain ⊢
  exact fun c member => plain c (inside member)

end Terminal

/-- A text that can be shown in one place: it is not empty, has no blanks around it, and nothing in
it can start an escape sequence. -/
structure Presentable (t : Text) : Prop extends Filled t where
  escapeFree : Terminal.escape ∉ t
  introducerFree : Terminal.controlIntroducer ∉ t

theorem Filled.presentable {t : Text} (filled : Filled t) (plain : Terminal.hasEscape t = false) :
    Presentable t := by
  rw [Terminal.hasEscape, List.any_eq_false] at plain
  refine ⟨filled, ?_, ?_⟩
  · intro inside
    exact plain Terminal.escape inside (by decide)
  · intro inside
    exact plain Terminal.controlIntroducer inside (by decide)

theorem hasEscape_normalizeLine (line : Text) :
    Terminal.hasEscape (normalizeLine line) = false := by
  have plain := Terminal.hasEscape_strip line
  unfold normalizeLine
  dsimp only
  split
  · exact Terminal.hasEscape_of_subset (List.dropLast_subset _) plain
  · exact plain

section Pieces
variable {lines : List Text} (plain : ∀ line ∈ lines, Terminal.hasEscape line = false)
include plain

theorem IsPiece.hasEscape {t : Text} (piece : IsPiece lines t) : Terminal.hasEscape t = false :=
  List.any_eq_false.2 (piece.forall_mem fun line member => List.any_eq_false.1 (plain line member))

theorem Drawn.hasEscape {format : Format} {error : Text} (drawn : Drawn lines format error) :
    Terminal.hasEscape error = false :=
  List.any_eq_false.2 (drawn.forall_mem
    (fun line member => List.any_eq_false.1 (plain line member)) (by decide) (by decide))

end Pieces

/-! ## The lines of a capture -/

/-- Normalizing a line takes away at most one of the carriage returns at its end. -/
theorem dropEndWhile_normalizeLine {line : Text} (plain : Terminal.strip line = line) :
    dropEndWhile (· = '\r') (normalizeLine line) = dropEndWhile (· = '\r') line := by
  unfold normalizeLine
  rw [plain]
  dsimp only
  split
  · next returned =>
      obtain ⟨front, rfl⟩ := List.isSuffixOf_iff_suffix.1 returned
      rw [List.dropLast_concat, dropEndWhile_eq_rdropWhile, dropEndWhile_eq_rdropWhile,
        List.rdropWhile_concat_pos _ _ _ (by decide)]
  · rfl

namespace Capture

variable (capture : Capture)

/-- The normalized lines of a capture: its log lines and the lines of its text. -/
def sourceLines : List Text :=
  capture.logs.map normalizeLine ++ splitLines capture.plainText

theorem hasEscape_of_mem_sourceLines {line : Text} (member : line ∈ capture.sourceLines) :
    Terminal.hasEscape line = false := by
  rcases List.mem_append.1 member with log | text
  · obtain ⟨raw, -, rfl⟩ := List.mem_map.1 log
    exact hasEscape_normalizeLine raw
  · unfold splitLines at text
    split at text
    · cases text
    · obtain ⟨raw, -, rfl⟩ := List.mem_map.1 text
      exact hasEscape_normalizeLine raw

theorem lines_infix : capture.lines <:+: capture.sourceLines := by
  unfold lines
  split
  · exact (List.suffix_append _ _).isInfix
  · exact (List.prefix_append _ _).isInfix

theorem scannedLines_infix : capture.scannedLines <:+: capture.sourceLines := by
  have all := capture.lines_infix
  unfold scannedLines
  split
  · next first rest given =>
      rw [given] at all
      split
      · exact (List.suffix_cons first rest).isInfix.trans all
      · exact all
  · exact List.nil_infix

theorem fallbackLines_infix : capture.fallbackLines <:+: capture.sourceLines := by
  unfold fallbackLines
  split
  · exact capture.lines_infix
  · exact (List.suffix_append _ _).isInfix

theorem blockOf_linesOf (visible : capture.plainText ≠ []) :
    BlockOf capture.sourceLines (BlockPass.linesOf capture.plainText) := by
  refine ⟨splitLines capture.plainText, (List.suffix_append _ _).isInfix, ?_⟩
  rw [splitLines, if_neg visible, List.map_map, BlockPass.linesOf]
  refine List.map_congr_left fun whole inside => ?_
  -- the text is stripped as a whole, and so is each of its lines
  have plain : Terminal.strip whole = whole := by
    rw [plainText, Terminal.splitOn_strip Terminal.isBarrier_newline] at inside
    obtain ⟨raw, -, rfl⟩ := List.mem_map.1 inside
    exact Terminal.strip_strip raw
  exact (dropEndWhile_normalizeLine plain).symm

end Capture

/-! ## Extractions -/

namespace Extraction

theorem exists_pass_of_mem_runPasses {capture : Capture}
    {passes : List (Phase × (Capture → Findings))} {diagnostic : Diagnostic}
    (found : diagnostic ∈ (runPasses capture passes).1.diagnostics) :
    ∃ pass ∈ passes, diagnostic ∈ (pass.2 capture).diagnostics := by
  rcases runPasses_cases capture passes with nothing | ⟨pass, member, -, something⟩
  · rw [nothing] at found
    cases found
  · rw [something] at found
    exact ⟨pass, member, found⟩

variable {settings : Settings} {capture : Capture} {diagnostic : Diagnostic}

theorem recognized_of_mem_pass {pass : Phase × (Capture → Findings)}
    (member : pass ∈ passes settings) (found : diagnostic ∈ (pass.2 capture).diagnostics) :
    Recognized capture.sourceLines (.ok diagnostic) := by
  simp only [passes, List.mem_cons, List.not_mem_nil, or_false] at member
  rcases member with rfl | rfl | rfl
  · have visible : capture.plainText ≠ [] := by
      intro invisible
      have nothing := diagnostics_ofBlock_of_invisible invisible
      exact List.ne_nil_of_mem found nothing
    exact BlockPass.recognized_of_mem_attempts (capture.blockOf_linesOf visible) found
  · have faithful := LinePass.faithful_watchers settings capture.folder
    exact (Panel.recognized_of_mem_attempts faithful found).widen capture.scannedLines_infix
  · have faithful := FallbackPass.faithful_watchers
    exact (Panel.recognized_of_mem_attempts faithful found).widen capture.fallbackLines_infix

theorem recognized_of_mem_diagnostics
    (found : diagnostic ∈ (ofCapture settings capture).diagnostics) :
    Recognized capture.sourceLines (.ok diagnostic) := by
  cases kind : capture.isSwiftLog settings with
  | true =>
      rw [ofCapture_of_swiftLog kind] at found
      exact (SwiftPass.recognized_of_mem_outcomes found).widen capture.lines_infix
  | false =>
      rw [ofCapture_of_not_swiftLog kind] at found
      obtain ⟨pass, member, passed⟩ := exists_pass_of_mem_runPasses found
      exact recognized_of_mem_pass member passed

theorem sourced_of_mem_diagnostics
    (found : diagnostic ∈ (ofCapture settings capture).diagnostics) :
    Sourced capture.sourceLines diagnostic :=
  (recognized_of_mem_diagnostics found).sourced

/-- Whatever the output of a build is, files and messages can be shown as they are. -/
theorem presentable_of_mem_diagnostics
    (found : diagnostic ∈ (ofCapture settings capture).diagnostics) :
    Presentable diagnostic.record.uri ∧ Presentable diagnostic.record.error := by
  have sourced := sourced_of_mem_diagnostics found
  have plain : ∀ line ∈ capture.sourceLines, Terminal.hasEscape line = false :=
    fun _ member => capture.hasEscape_of_mem_sourceLines member
  exact ⟨sourced.filledUri.presentable (sourced.uri.hasEscape plain),
    sourced.filledError.presentable (sourced.error.hasEscape plain)⟩

/-- A coloured line that ends in a carriage return. -/
theorem presentable_of_mem_diagnostics_coloured :
    let line := "\x1b[31mSyntaxError: src/a.js: Unexpected token (3:14)\x1b[0m\r".toList
    let diagnostic : Diagnostic :=
      ⟨.syntaxError, "src/a.js".toList, 2, 13, "Unexpected token".toList⟩
    diagnostic ∈ (ofCapture {} { logs := [line] }).diagnostics ∧
      Presentable diagnostic.record.uri ∧ Presentable diagnostic.record.error := by
  intro line diagnostic
  have found : diagnostic ∈ (ofCapture {} { logs := [line] }).diagnostics := by decide +kernel
  exact ⟨found, presentable_of_mem_diagnostics found⟩

/-- The file of every diagnostic stands in one normalized line, and its message is drawn from such
lines in the way of its format. -/
theorem drawn_of_mem_diagnostics
    (found : diagnostic ∈ (ofCapture settings capture).diagnostics) :
    IsPiece capture.sourceLines diagnostic.record.uri ∧
      Drawn capture.sourceLines diagnostic.format diagnostic.record.error := by
  have sourced := sourced_of_mem_diagnostics found
  exact ⟨sourced.uri, sourced.error⟩

/-- A message of which only the two ends are kept. -/
theorem drawn_of_mem_diagnostics_shortened :
    let settings : Settings := { jasmineMaxMessage := 12, jasmineHead := 8, jasmineTail := 5 }
    let capture : Capture :=
      { logs := ["Error: Expected 1 to equal 2.".toList, "  at it (src/a.spec.ts:5:9)".toList] }
    let diagnostic : Diagnostic := ⟨.jasmine, "src/a.spec.ts".toList, 4, 8, "Expected...al 2.".toList⟩
    diagnostic ∈ (ofCapture settings capture).diagnostics ∧
      IsPiece capture.sourceLines diagnostic.record.uri ∧
      Drawn capture.sourceLines diagnostic.format diagnostic.record.error := by
  intro settings capture diagnostic
  have found : diagnostic ∈ (ofCapture settings capture).diagnostics := by decide +kernel
  exact ⟨found, drawn_of_mem_diagnostics found⟩

end Extraction

end BuildLog
