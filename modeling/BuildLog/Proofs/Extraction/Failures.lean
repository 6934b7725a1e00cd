import BuildLog.Proofs.Extraction.Passes
import BuildLog.Proofs.Pass.Doubts
import BuildLog.Proofs.Pass.Formats

/-!
# What the failures of a run tell

An event that tells of a dropped candidate names a format, and it is one of the phase that tells it.
Only an entry of a lint list can turn out not to be of its format at all: every other layout is tested
for its mark before it is read, and the test and the reader agree.  The test for a short lint report
is made on the whole output, the reader looks at its third line only; what the reader would accept
passes the test as well.
-/

set_option autoImplicit false

namespace BuildLog

open Text

/-! ## Events -/

namespace Event

/-- The failure that an event tells of, and the phase in which the candidate was dropped. -/
def failure? : Event → Option (Phase × Failure)
  | blockDropped failure => some (.wholeBlob, failure)
  | lineDropped failure => some (.lineScan, failure)
  | fallbackDropped failure => some (.fallback, failure)
  | candidateDropped failure _ => some (.xcode, failure)
  | _ => none

def Accountable (event : Event) : Prop :=
  ∀ phase failure, event.failure? = some (phase, failure) → phase.Owns (.error failure)

theorem accountable_of_silent {event : Event} (silent : event.failure? = none) :
    event.Accountable := by
  intro phase failure told
  rw [silent] at told
  cases told

theorem accountable_of_owns {event : Event} {phase : Phase} {failure : Failure}
    (tells : event.failure? = some (phase, failure)) (owns : phase.Owns (.error failure)) :
    event.Accountable := by
  intro other told same
  rw [tells] at same
  cases same
  exact owns

theorem accountable_of_dropped {phase : Phase} {tell : Failure → Event}
    (tells : ∀ failure, (tell failure).failure? = some (phase, failure)) {attempts : List Attempt}
    (owns : ∀ attempt ∈ attempts, phase.Owns attempt) :
    ∀ event ∈ (attempts.filterMap Attempt.dropped?).map tell, event.Accountable := by
  intro event member
  obtain ⟨failure, dropped, rfl⟩ := List.mem_map.1 member
  obtain ⟨attempt, inside, failed⟩ := List.mem_filterMap.1 dropped
  cases attempt with
  | ok diagnostic => cases failed
  | error other =>
      cases failed
      exact accountable_of_owns (tells failure) (owns _ inside)

end Event

theorem Phase.Owns.failure {phase : Phase} {failure : Failure}
    (owns : phase.Owns (.error failure)) :
    failure.format ∈ phase.formats ∧
      ∀ format, failure = .noMatch format → format = .eslint ∨ format = .vue := by
  obtain ⟨format, member, owns⟩ := owns
  cases owns with
  | dropped owns =>
      refine ⟨owns.format_eq ▸ member, ?_⟩
      rintro other rfl
      cases owns with
      | noMatch lint => exact lint

/-! ## The events of the passes -/

namespace Findings

variable (settings : Settings) (capture : Capture)

theorem accountable_ofBlock : ∀ event ∈ (ofBlock capture).events, event.Accountable := by
  intro event member
  obtain ⟨attempt, inside, rfl⟩ := List.mem_map.1 member
  cases attempt with
  | ok diagnostic => exact Event.accountable_of_silent rfl
  | error failure => exact Event.accountable_of_owns rfl (BlockPass.owns_of_mem_attempts inside)

theorem accountable_ofLines : ∀ event ∈ (ofLines settings capture).events, event.Accountable :=
  Event.accountable_of_dropped (fun _ => rfl) fun _ => LinePass.owns_of_mem_attempts

theorem accountable_ofFallback : ∀ event ∈ (ofFallback capture).events, event.Accountable :=
  Event.accountable_of_dropped (fun _ => rfl) fun _ => FallbackPass.owns_of_mem_attempts

theorem accountable_ofSwift : ∀ event ∈ (ofSwift settings capture).events, event.Accountable := by
  intro event member
  obtain ⟨outcome, inside, told⟩ := List.mem_filterMap.1 member
  cases outcome with
  | replaced candidate =>
      cases told
      exact Event.accountable_of_silent rfl
  | unpaired candidate =>
      cases told
      exact Event.accountable_of_silent rfl
  | read candidate attempt =>
      cases attempt with
      | ok diagnostic => cases told
      | error failure =>
          cases told
          exact Event.accountable_of_owns rfl (SwiftPass.owns_of_mem_outcomesFrom inside)

end Findings

namespace Extraction

theorem accountable_traced (settings : Settings) (capture : Capture) :
    ∀ event ∈ (traced settings capture).2, event.Accountable := by
  have extracted : ∀ phase count, (Event.extracted phase count).Accountable :=
    fun _ _ => Event.accountable_of_silent rfl
  cases kind : capture.isSwiftLog settings with
  | true =>
      rw [traced_of_swiftLog kind, Findings.conclude, List.forall_mem_append,
        List.forall_mem_singleton]
      exact ⟨Findings.accountable_ofSwift settings capture, extracted _ _⟩
  | false =>
      rw [traced_of_not_swiftLog kind]
      refine forall_mem_events_runPasses ?_ extracted fun _ => Event.accountable_of_silent rfl
      simp only [passes, List.forall_mem_cons]
      exact ⟨Findings.accountable_ofBlock capture, Findings.accountable_ofLines settings capture,
        Findings.accountable_ofFallback capture, List.forall_mem_nil _⟩

end Extraction

/-! ## Short lint reports -/

theorem Lint.exists_line_of_readReport {lines : List Text} {diagnostic : Diagnostic}
    (read : readReport lines = .ok diagnostic) : ∃ line ∈ lines, errorLabel <:+: line := by
  unfold readReport at read
  split at read
  · next first path detail rest =>
      split at read
      · cases read
      · next place message found =>
          have inside : errorLabel <:+: trim detail :=
            occursIn_iff.1 (Option.isSome_iff_exists.2 ⟨_, found⟩)
          exact ⟨detail, by simp, inside.trans (trim_isInfix detail)⟩
  · cases read

namespace BlockPass

def reportDetector : Detector :=
  ⟨occursIn Lint.errorLabel, Lint.readReport⟩

theorem infix_of_mem_linesOf {text line : Text} (member : line ∈ linesOf text) : line <:+: text := by
  obtain ⟨piece, inside, rfl⟩ := List.mem_map.1 member
  exact (dropEndWhile_isPrefix _ piece).isInfix.trans (piece_of_mem_splitOn inside).2

theorem reportDetector_applies {text : Text} {diagnostic : Diagnostic}
    (read : reportDetector.reads (linesOf text) = .ok diagnostic) :
    reportDetector.applies text = true := by
  obtain ⟨line, member, label⟩ := Lint.exists_line_of_readReport read
  exact occursIn_iff.2 (label.trans (infix_of_mem_linesOf member))

end BlockPass

/-! ## Runs -/

namespace Extraction

/-- In every run a failure is one of the phase that tells of it, and only lint entries turn out not
to be of their format.  No reader misses the mark that its line was tested for: whatever a reader
that looks for it again would make of its absence, both passes go on as before.  And what is read as
a short lint report passes the test for one. -/
theorem failures_and_guards (settings : Settings) (capture : Capture) :
    (∀ event ∈ (traced settings capture).2, ∀ phase failure,
        event.failure? = some (phase, failure) →
          failure.format ∈ phase.formats ∧
            ∀ format, failure = .noMatch format → format = .eslint ∨ format = .vue) ∧
      (∀ (unmarked : Format → Attempt) (lines : List Text),
        (Panel.ofWatchers (LinePass.doubting unmarked settings capture.folder)).attempts lines =
            LinePass.attempts settings capture.folder lines ∧
          (Panel.ofWatchers (FallbackPass.doubting unmarked)).attempts lines =
            FallbackPass.attempts lines) ∧
      BlockPass.reportDetector ∈ BlockPass.detectors ∧
      ∀ text diagnostic,
        BlockPass.reportDetector.reads (BlockPass.linesOf text) = .ok diagnostic →
          BlockPass.reportDetector.applies text = true := by
  refine ⟨?failures, ?marks, ?member, ?report⟩
  case failures =>
    intro event member phase failure told
    exact (accountable_traced settings capture event member phase failure told).failure
  case marks =>
    intro unmarked lines
    exact ⟨LinePass.attempts_doubting unmarked settings capture.folder lines,
      FallbackPass.attempts_doubting unmarked lines⟩
  case member => simp [BlockPass.detectors, BlockPass.reportDetector]
  case report => exact fun _ _ => BlockPass.reportDetector_applies

/-- A line below a file name that is no entry, beside a report that is accepted. -/
theorem failures_and_guards_no_entry :
    let capture : Capture := { logs := ["src/a.ts".toList, "all good".toList] }
    let report := "lint\nsrc/a.ts\n  12:5  Error: Unexpected any".toList
    let dropped := Event.lineDropped (.noMatch .eslint)
    dropped ∈ (traced {} capture).2 ∧ dropped.failure? = some (.lineScan, .noMatch .eslint) ∧
      (Failure.noMatch .eslint).format ∈ Phase.formats .lineScan ∧
      BlockPass.reportDetector.reads (BlockPass.linesOf report) =
        .ok ⟨.lintStyle, "src/a.ts".toList, 11, 4, "Unexpected any".toList⟩ ∧
      BlockPass.reportDetector.applies report = true := by
  intro capture report dropped
  obtain ⟨failures, -, -, accepted⟩ := failures_and_guards {} capture
  have told : dropped ∈ (traced {} capture).2 := by decide +kernel
  have read : BlockPass.reportDetector.reads (BlockPass.linesOf report) =
      .ok ⟨.lintStyle, "src/a.ts".toList, 11, 4, "Unexpected any".toList⟩ := by decide +kernel
  exact ⟨told, rfl, (failures dropped told _ _ rfl).1, read, accepted report _ read⟩

end Extraction

end BuildLog
