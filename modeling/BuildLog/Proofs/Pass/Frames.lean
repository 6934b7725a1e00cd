import BuildLog.Proofs.Extraction.Folders
import BuildLog.Proofs.Pass.Alone
import BuildLog.Proofs.Recognizer.PrintedPlaces
import BuildLog.Proofs.Text.Marks

/-!
# Stack frames

A test runner prints the message of a failed test and below it the place in parentheses.  Message
and coordinates are reported as they were printed, whatever stands in front of the place.  So is the
path unless it has parentheses of its own: then the frame is read from the last of them on, and
only the end of the path is reported.
-/

set_option autoImplicit false

namespace BuildLog

open Text

namespace TestRunner

/-! ## What the runner prints -/

def messageLine (message : Text) : Text :=
  "Error: ".toList ++ message

def frameLine (before : Text) (place : Location) : Text :=
  before ++ '(' :: place.render ++ [')']

/-- A message with nothing to take away from it. -/
structure Verbatim (settings : Settings) (message : Text) : Prop where
  spoken : message ≠ []
  trimmed : trim message = message
  unlabelled : CodeLabel.afterLabel? message = none
  short : message.length ≤ settings.jasmineMaxMessage

/-- A place whose path a person would read out of the parentheses around it. -/
structure Enclosable (place : Location) : Prop where
  named : place.path ≠ []
  trimmed : trim place.path = place.path
  balanced : Balanced place.path
  smallLine : place.line < Numeral.limit
  smallColumn : place.column < Numeral.limit

/-! ## Reading it -/

theorem errorMessage?_messageLine {settings : Settings} {folder message : Text}
    (verbatim : Verbatim settings message)
    (outside : Folder.names folder (messageLine message) = false) :
    errorMessage? settings folder (messageLine message) = some message := by
  have cut : cut? "Error:".toList (messageLine message) = some ([], ' ' :: message) :=
    cut?_append "Error:".toList (' ' :: message)
  have stripped : CodeLabel.strip (' ' :: message) = message := by
    rw [CodeLabel.strip, trim_cons_of_isBlank (by decide), verbatim.trimmed, verbatim.unlabelled]
  have whole : shorten settings message = message := by
    rw [shorten, verbatim.trimmed, if_pos verbatim.short]
  rw [errorMessage?, outside, cut]
  simp [stripped, whole]

theorem trim_behindOpening_eq_self_iff {path : Text} (trimmed : trim path = path) :
    trim (behindOpening path) = path ↔ '(' ∉ path := by
  constructor
  · intro same member
    rw [← same] at member
    exact not_mem_behindOpening path ((trim_isInfix _).subset member)
  · intro absent
    rw [behindOpening_of_not_mem absent, trimmed]

theorem trim_behindOpening_ne_nil {place : Location} (enclosable : Enclosable place) :
    trim (behindOpening place.path) ≠ [] := by
  by_cases member : '(' ∈ place.path
  · -- a closing parenthesis is left, and it is no blank
    intro blank
    have closing := enclosable.balanced.mem_behindOpening member
    exact absurd (isBlankLine_iff.1 (trim_eq_nil_iff.1 blank) _ closing) (by decide)
  · rw [behindOpening_of_not_mem member, enclosable.trimmed]
    exact enclosable.named

theorem lastGroup?_frameLine (before : Text) (place : Location) :
    ∃ front, Location.lastGroup? (frameLine before place) =
      some (front, Location.render { place with path := behindOpening place.path }) := by
  have digits : ∀ n, '(' ∉ Numeral.render n := Numeral.not_mem_render (by decide)
  have coordinates : '(' ∉ ':' :: Numeral.render place.line ++
      ':' :: Numeral.render place.column := by simp [digits]
  obtain ⟨front, group⟩ := Location.lastGroup?_of_ending before place.path coordinates
  refine ⟨front, ?_⟩
  simpa [frameLine, Location.render] using group

theorem readFrame_frameLine {message before : Text} {place : Location} (spoken : message ≠ [])
    (trimmed : trim message = message) (enclosable : Enclosable place)
    (foreign : occursIn "<Jasmine>".toList (frameLine before place) = false) :
    readFrame message (frameLine before place) =
      .ok ⟨.jasmine, trim (behindOpening place.path), place.line - 1, place.column - 1,
        message⟩ := by
  let seen : Location := { place with path := behindOpening place.path }
  obtain ⟨front, enclosed⟩ := lastGroup?_frameLine before place
  have read : Location.read .jasmine (seen.render ++ [] ++ []) =
      .ok { seen with path := trim seen.path } :=
    Location.read_render .jasmine seen enclosable.smallLine enclosable.smallColumn (by simp)
      (by simp)
  rw [List.append_nil, List.append_nil] at read
  have named : trim (trim (behindOpening place.path)) ≠ [] := by
    rw [trim_trim]
    exact trim_behindOpening_ne_nil enclosable
  have record := Diagnostic.ofOneBased_eq_ok .jasmine place.line place.column named
    (trimmed.symm ▸ spoken : trim message ≠ [])
  rw [trim_trim, trimmed] at record
  rw [readFrame, foreign, enclosed]
  simp only [Bool.false_eq_true, ↓reduceIte]
  rw [read]
  exact record

end TestRunner

namespace LinePass

open TestRunner

/-- The records of a message and of the frame below it.  There is one, with the message and the
coordinates in print.  The path in print comes out of it exactly when it has no parenthesis; the
text in front of the place may have any. -/
theorem records_of_frame {settings : Settings} {folder message before : Text} {place : Location}
    (verbatim : Verbatim settings message) (enclosable : Enclosable place)
    (outside : Folder.names folder (messageLine message) = false)
    (foreign : occursIn "<Jasmine>".toList (frameLine before place) = false) :
    let records := ((attempts settings folder
      [messageLine message, frameLine before place]).filterMap Attempt.accepted?).filter
        fun diagnostic => diagnostic.format = .jasmine
    records = [⟨.jasmine, trim (behindOpening place.path), place.line - 1, place.column - 1,
        message⟩] ∧
      (records = [⟨.jasmine, place.path, place.line - 1, place.column - 1, message⟩] ↔
        '(' ∉ place.path) := by
  have distinct : formats.Nodup := by decide
  have own := Panel.filter_attempts_ofWatchers (tagged_watchers settings folder) distinct
    (frameWatcher_mem_zip settings folder) [messageLine message, frameLine before place]
  have attempted := attempts_paired_pair (errorMessage? settings folder) readFrame
    (messageLine message) (frameLine before place)
  rw [errorMessage?_messageLine verbatim outside] at attempted
  intro records
  have found : records = [⟨.jasmine, trim (behindOpening place.path), place.line - 1,
      place.column - 1, message⟩] := by
    have accepted := filter_format_accepted .jasmine (attempts settings folder
      [messageLine message, frameLine before place])
    rw [attempts, own, frameWatcher, attempted, Option.map_some, readFrame_frameLine
      verbatim.spoken verbatim.trimmed enclosable foreign] at accepted
    exact accepted
  refine ⟨found, ?_⟩
  rw [found, ← trim_behindOpening_eq_self_iff enclosable.trimmed]
  simp

/-- A path with a drive letter below a function with parentheses in its name. -/
theorem records_of_frame_drive_letter :
    let message := "Expected 1 to be 2.".toList
    let place : Location := ⟨"C:/app/a.spec.ts".toList, 5, 9⟩
    let before := "    at UserContext.<it (works)> ".toList
    let records := ((attempts {} "/proj".toList
      [messageLine message, frameLine before place]).filterMap Attempt.accepted?).filter
        fun diagnostic => diagnostic.format = .jasmine
    frameLine before place =
        "    at UserContext.<it (works)> (C:/app/a.spec.ts:5:9)".toList ∧
      Verbatim {} message ∧ Enclosable place ∧
      Folder.names "/proj".toList (messageLine message) = false ∧
      occursIn "<Jasmine>".toList (frameLine before place) = false ∧
      records = [⟨.jasmine, "C:/app/a.spec.ts".toList, 4, 8, message⟩] := by
  intro message place before records
  have verbatim : Verbatim {} message := ⟨by decide, by decide, by decide, by decide⟩
  have enclosable : Enclosable place :=
    ⟨by decide, by decide, by decide, by decide, by decide⟩
  have outside : Folder.names "/proj".toList (messageLine message) = false := by decide
  have foreign : occursIn "<Jasmine>".toList (frameLine before place) = false := by decide
  exact ⟨by decide, verbatim, enclosable, outside, foreign,
    (records_of_frame verbatim enclosable outside foreign).2.2 (by decide)⟩

/-- The parentheses of the path are balanced, but the frame is read from the inner one on. -/
theorem end_of_path_reported :
    let message := "Expected 1 to be 2.".toList
    let place : Location := ⟨"app/(tabs)/x.ts".toList, 5, 9⟩
    let before := "    at it ".toList
    Verbatim {} message ∧ Enclosable place ∧
      Folder.names "/proj".toList (messageLine message) = false ∧
      occursIn "<Jasmine>".toList (frameLine before place) = false ∧
      ((attempts {} "/proj".toList
        [messageLine message, frameLine before place]).filterMap Attempt.accepted?).filter
          (fun diagnostic => diagnostic.format = .jasmine) =
        [⟨.jasmine, "tabs)/x.ts".toList, 4, 8, message⟩] :=
  ⟨⟨by decide, by decide, by decide, by decide⟩,
    ⟨by decide, by decide, by decide, by decide, by decide⟩, by decide, by decide, by decide⟩

end LinePass

end BuildLog
