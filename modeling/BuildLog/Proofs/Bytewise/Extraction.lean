import BuildLog.Proofs.Bytewise.Scan
import BuildLog.Proofs.Extraction.DerivedLines

/-!
# Extraction on offsets

The whole run with its offsets, indices and counters checked.  A capture that stands in memory has
texts whose sizes are machine words.  When its lines can be counted with two numbers to spare, no
check fails, whatever its texts, the folder and the settings are, and what comes out is the
extraction.
-/

set_option autoImplicit false

namespace BuildLog.Bytewise

open Text

/-! ## The block pass -/

structure Detector where
  applies : Text → Bool
  reads : List Text → Checked Attempt

def detectors : List Detector :=
  [ ⟨startsWith "Failed to compile.".toList, readCompilation⟩,
    ⟨occursIn Lint.errorLabel, fun lines => return Lint.readReport lines⟩,
    ⟨startsWith Bundler.errorMark, readBlock⟩ ]

def detectAmong (text : Text) (lines : List Text) : List Detector → Checked (Option Diagnostic)
  | [] => return none
  | detector :: rest =>
    if detector.applies text then do
      match ← detector.reads lines with
      | .ok diagnostic => return some diagnostic
      | .error _ => detectAmong text lines rest
    else detectAmong text lines rest

def detect (text : Text) : Checked (Option Diagnostic) :=
  if text = [] then return none else detectAmong text (BlockPass.linesOf text) detectors

structure Detector.Checks (detector : Detector) (plain : BlockPass.Detector) : Prop where
  applies : detector.applies = plain.applies
  reads : ∀ lines : List Text, lines.length < Numeral.limit →
    detector.reads lines = .ok (plain.reads lines)

theorem checks_detectors : List.Forall₂ Detector.Checks detectors BlockPass.detectors :=
  .cons ⟨rfl, fun _ => readCompilation_eq_ok⟩ <|
    .cons ⟨rfl, fun _ _ => rfl⟩ <| .cons ⟨rfl, fun lines _ => readBlock_eq_ok lines⟩ .nil

theorem detectAmong_eq_ok {text : Text} (few : (BlockPass.linesOf text).length < Numeral.limit)
    {checked : List Detector} {plain : List BlockPass.Detector}
    (checks : List.Forall₂ Detector.Checks checked plain) :
    ∃ found, detectAmong text (BlockPass.linesOf text) checked = .ok found ∧
      (BlockPass.attemptsOf text plain).filterMap Attempt.accepted? = found.toList := by
  induction checks with
  | nil => exact ⟨none, rfl, rfl⟩
  | @cons _ detector _ _ here _ ih =>
      unfold detectAmong BlockPass.attemptsOf
      rw [here.applies, here.reads _ few]
      split
      · cases detector.reads (BlockPass.linesOf text) with
        | ok diagnostic => exact ⟨some diagnostic, rfl, rfl⟩
        | error failure => exact ih
      · exact ih

theorem detect_eq_ok {text : Text} (few : (text.splitOn '\n').length < Numeral.limit) :
    ∃ found, detect text = .ok found ∧
      (BlockPass.attempts text).filterMap Attempt.accepted? = found.toList := by
  unfold detect
  by_cases empty : text = []
  · rw [if_pos empty, empty]
    exact ⟨none, rfl, rfl⟩
  · rw [if_neg empty]
    apply detectAmong_eq_ok _ checks_detectors
    rwa [BlockPass.linesOf, List.length_map]

/-! ## The run -/

def scanStart : List Text → Nat
  | first :: _ => if startsWith "[error] Command line invocation:".toList first then 1 else 0
  | [] => 0

/-- Stripping and splitting take no offsets, so the lines are those of the capture. -/
def extraction (settings : Settings) (capture : Capture) : Checked Extraction :=
  if capture.isSwiftLog settings then do
    let outcomes ← scanSwift settings.xcodeContextSkip capture.lines
    return ⟨some .xcode, outcomes.filterMap SwiftPass.Outcome.accepted?⟩
  else do
    match ← detect capture.plainText with
    | some diagnostic => return ⟨some .wholeBlob, [diagnostic]⟩
    | none =>
      let scanned ← elements capture.lines (scanStart capture.lines) capture.lines.length
      let attempts ← scanLines settings capture.folder scanned
      let found := attempts.filterMap Attempt.accepted?
      if found ≠ [] then return ⟨some .lineScan, found⟩
      else
        let attempts ← scanFallback capture.fallbackLines
        let found := attempts.filterMap Attempt.accepted?
        if found ≠ [] then return ⟨some .fallback, found⟩ else return {}

theorem elements_scanStart (capture : Capture) :
    elements capture.lines (scanStart capture.lines) capture.lines.length =
      .ok capture.scannedLines := by
  unfold Capture.scannedLines scanStart
  cases capture.lines with
  | nil => rfl
  | cons first rest =>
      dsimp only
      split
      · rw [elements_eq_ok (by simp) (Nat.le_refl _), List.take_length]
        rfl
      · rw [elements_eq_ok (Nat.zero_le _) (Nat.le_refl _), List.take_length]
        rfl

/-! ## Captures in memory -/

/-- A capture as it stands in memory, where the size of a text is a machine word. -/
structure Stored where
  capture : Capture
  text : size capture.text < Numeral.limit
  logs : ∀ log ∈ capture.logs, size log < Numeral.limit

/-- The lines can be counted with two numbers to spare. -/
structure FewLines (capture : Capture) : Prop where
  text : (capture.text.splitOn '\n').length + 2 < Numeral.limit
  logs : capture.logs.length + 2 < Numeral.limit

theorem size_normalizeLine_lt {line : Text} {bound : Nat} (small : size line < bound) :
    size (normalizeLine line) < bound :=
  Nat.lt_of_le_of_lt (size_le_of_sublist (normalizeLine_sublist line)) small

namespace Stored
variable (stored : Stored)

theorem small_splitLines :
    ∀ line ∈ splitLines stored.capture.plainText, size line < Numeral.limit := by
  have smallText : size stored.capture.plainText < Numeral.limit :=
    Nat.lt_of_le_of_lt (size_le_of_sublist (Terminal.strip_sublist _)) stored.text
  intro line inside
  rw [splitLines] at inside
  split at inside
  · cases inside
  · obtain ⟨piece, here, rfl⟩ := List.mem_map.1 inside
    exact size_normalizeLine_lt (size_lt_of_isInfix (piece_of_mem_splitOn here).2 smallText)

theorem small_lines : ∀ line ∈ stored.capture.lines, size line < Numeral.limit := by
  intro line inside
  rw [Capture.lines] at inside
  split at inside
  · exact stored.small_splitLines line inside
  · obtain ⟨log, here, rfl⟩ := List.mem_map.1 inside
    exact size_normalizeLine_lt (stored.logs log here)

theorem small_scannedLines : ∀ line ∈ stored.capture.scannedLines, size line < Numeral.limit := by
  intro line inside
  apply stored.small_lines line
  rw [Capture.scannedLines] at inside
  split at inside
  · next first rest lines =>
      rw [lines]
      split at inside
      · exact List.mem_cons_of_mem first inside
      · exact inside
  · cases inside

theorem small_fallbackLines :
    ∀ line ∈ stored.capture.fallbackLines, size line < Numeral.limit := by
  rw [Capture.fallbackLines]
  split
  · exact stored.small_lines
  · exact stored.small_splitLines

end Stored

namespace FewLines
variable {capture : Capture} (few : FewLines capture)
include few

theorem plainText : (capture.plainText.splitOn '\n').length + 2 < Numeral.limit := by
  rw [Capture.plainText, Terminal.splitOn_strip Terminal.isBarrier_newline, List.length_map]
  exact few.text

theorem splitLines : (splitLines capture.plainText).length + 2 < Numeral.limit := by
  rw [BuildLog.splitLines]
  split
  · exact Nat.lt_of_le_of_lt (Nat.add_le_add_right (Nat.zero_le _) 2) few.text
  · rw [List.length_map]
    exact few.plainText

theorem fallbackLines : capture.fallbackLines.length + 2 < Numeral.limit := by
  rw [Capture.fallbackLines, Capture.lines]
  split
  · split
    · exact few.splitLines
    · rw [List.length_map]
      exact few.logs
  · exact few.splitLines

end FewLines

/-! ## No fault -/

theorem extraction_of_not_swiftLog {settings : Settings} {capture : Capture}
    (other : capture.isSwiftLog settings = false) {found : Option Diagnostic}
    (detected : detect capture.plainText = .ok found)
    (block : (Findings.ofBlock capture).diagnostics = found.toList)
    (entries : scanLines settings capture.folder capture.scannedLines =
      .ok (LinePass.attempts settings capture.folder capture.scannedLines))
    (statements : scanFallback capture.fallbackLines =
      .ok (FallbackPass.attempts capture.fallbackLines)) :
    extraction settings capture = .ok (Extraction.ofCapture settings capture) := by
  have lines : (LinePass.attempts settings capture.folder capture.scannedLines).filterMap
      Attempt.accepted? = (Findings.ofLines settings capture).diagnostics := rfl
  have fallback : (FallbackPass.attempts capture.fallbackLines).filterMap
      Attempt.accepted? = (Findings.ofFallback capture).diagnostics := rfl
  unfold extraction
  rw [other, if_neg Bool.false_ne_true, Extraction.ofCapture_of_not_swiftLog other,
    Extraction.passes, detected, ok_bind]
  cases found with
  | some diagnostic =>
      rw [Extraction.runPasses_of_something _ (by rw [block]; simp), block]
      rfl
  | none =>
      rw [Extraction.runPasses_of_nothing _ block]
      dsimp only
      rw [elements_scanStart, ok_bind, entries, ok_bind, lines]
      by_cases nothing : (Findings.ofLines settings capture).diagnostics = []
      · rw [Extraction.runPasses_of_nothing _ nothing, if_neg (not_not.2 nothing), statements,
          ok_bind, fallback]
        by_cases nothing' : (Findings.ofFallback capture).diagnostics = []
        · rw [Extraction.runPasses_of_nothing _ nothing', if_neg (not_not.2 nothing')]
          rfl
        · rw [Extraction.runPasses_of_something _ nothing', if_pos nothing']
          rfl
      · rw [Extraction.runPasses_of_something _ nothing, if_pos nothing]
        rfl

theorem extraction_eq_ok (stored : Stored) (few : FewLines stored.capture) (settings : Settings) :
    extraction settings stored.capture = .ok (Extraction.ofCapture settings stored.capture) := by
  cases kind : stored.capture.isSwiftLog settings with
  | true =>
      unfold extraction
      rw [kind, Extraction.ofCapture_of_swiftLog kind, if_pos rfl,
        scanSwift_eq_ok _ stored.small_lines]
      rfl
  | false =>
      obtain ⟨found, detected, block⟩ := detect_eq_ok (Nat.lt_of_add_right_lt few.plainText)
      exact extraction_of_not_swiftLog kind detected block
        (scanLines_eq_ok settings _ stored.small_scannedLines)
        (scanFallback_eq_ok stored.small_fallbackLines (Nat.lt_of_succ_lt few.fallbackLines))

/-- What is found in the copy in lower case is found at offsets of the text itself. -/
theorem slices_of_find?_lowered {mark t : Text} {offset : Nat}
    (found : find? mark (lowered t) = some offset) :
    (∃ before, sliceTo t offset = .ok before) ∧
      ∃ rest, sliceFrom t (offset + size mark) = .ok rest := by
  rw [find?_eq] at found
  obtain ⟨⟨front, back⟩, cut, rfl⟩ := Option.map_eq_some_iff.1 found
  obtain ⟨before, middle, rest, rfl, sizeBefore, sizeMiddle, -⟩ := append_of_cut?_lowered cut
  refine ⟨⟨before, ?_⟩, rest, ?_⟩
  · rw [← sizeBefore]
    exact sliceTo_size before (middle ++ rest)
  · rw [← sizeBefore, ← sizeMiddle, ← size_append, ← List.append_assoc]
    exact sliceFrom_size (before ++ middle) rest

theorem elements_of_findMarker {lines : List Text} (few : lines.length < Numeral.limit)
    {marker : Nat} {place : Text} (found : findMarker lines = .ok (some (marker, place))) :
    ∃ between, elements lines 4 marker = .ok between := by
  rw [findMarker_eq_ok few] at found
  obtain ⟨⟨between, _⟩, cut, same⟩ := Option.map_eq_some_iff.1 (Except.ok.inj found)
  cases same
  exact ⟨between, elements_above_marker cut⟩

/-- No slice is taken inside a character or out of range, no index is missing and no count
overflows: what comes out is the extraction.  In particular, offsets found in a copy in lower case
cut the text itself, the lines between the fourth and a marker can be taken, and the two marks of a
Swift message are equally long. -/
theorem extraction_faultless (stored : Stored) (few : FewLines stored.capture)
    (settings : Settings) :
    extraction settings stored.capture = .ok (Extraction.ofCapture settings stored.capture) ∧
      (∀ (mark t : Text) (offset : Nat), find? mark (lowered t) = some offset →
        (∃ before, sliceTo t offset = .ok before) ∧
          ∃ rest, sliceFrom t (offset + size mark) = .ok rest) ∧
      (∀ (lines : List Text) (marker : Nat) (place : Text), lines.length < Numeral.limit →
        findMarker lines = .ok (some (marker, place)) →
        ∃ between, elements lines 4 marker = .ok between) ∧
      size openMark = size closedMark :=
  ⟨extraction_eq_ok stored few settings, fun _ _ _ => slices_of_find?_lowered,
    fun _ _ _ few => elements_of_findMarker few, size_openMark⟩

/-- Characters of two and three bytes stand in front of the mark and behind it. -/
theorem extraction_faultless_multibyte :
    let capture : Capture := { text := "é ERROR  in src/ß.ts:5:1\n\nGröße ✘".toList }
    let place : Record := ⟨"src/ß.ts".toList, 4, 0, "Größe ✘".toList⟩
    FewLines capture ∧
      extraction {} capture = .ok ⟨some .lineScan, [⟨.vueTypescript, place⟩]⟩ ∧
      find? componentMark (lowered capture.text) = some 3 ∧
      ∃ rest, sliceFrom capture.text (3 + size componentMark) = .ok rest := by
  intro capture place
  have few : FewLines capture := ⟨by decide, by decide⟩
  obtain ⟨same, cut, -, -⟩ := extraction_faultless ⟨capture, by decide, by decide⟩ few {}
  have found : find? componentMark (lowered capture.text) = some 3 := by decide
  have value : Extraction.ofCapture {} capture = ⟨some .lineScan, [⟨.vueTypescript, place⟩]⟩ := by
    decide +kernel
  exact ⟨few, same.trans (congrArg Except.ok value), found,
    (cut componentMark capture.text 3 found).2⟩

end BuildLog.Bytewise
