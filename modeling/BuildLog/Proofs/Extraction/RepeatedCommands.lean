import BuildLog.Proofs.Extraction.DerivedLines
import BuildLog.Proofs.Pass.Segments
import BuildLog.Proofs.Pass.SwiftWindows
import BuildLog.Proofs.Text.Marks

/-!
# A log line that repeats the command

A runner may repeat the command of a build in the first line of its log.  The line pass leaves that
line out; the other passes read it, make nothing of it and remember nothing of it.  A line that is
overlooked in this way can stand in front of any log without a change of what is found, although
every place of the log moves by one line.
-/

set_option autoImplicit false

namespace BuildLog

open Text

/-! ## Lines that are overlooked -/

namespace Watcher

/-- The watcher makes nothing of the line and remembers nothing of it, as long as nothing is
pending. -/
def Overlooks (watcher : Watcher) (line : Text) : Prop :=
  watcher.react watcher.start line = ([], watcher.start)

section Kinds
variable {opens : Text → Option Text} {line : Text}

theorem overlooks_single {reads : Text → Option Attempt} (silent : reads line = none) :
    (single reads).Overlooks line := by
  simp [Overlooks, react, start, silent]

theorem overlooks_patient (reads : Text → Text → Option Attempt) (closed : opens line = none) :
    (patient opens reads).Overlooks line := by
  cases blank : isBlankLine line with
  | true => simp [Overlooks, react, start, blank, closed]
  | false => simp [Overlooks, react, start, blank, closed]

theorem overlooks_distant (reads : Text → Text → Attempt) (closed : opens line = none) :
    (distant opens reads).Overlooks line := by
  simp [Overlooks, react, start, closed]

end Kinds

end Watcher

theorem Panel.attempts_cons_of_overlooks {watchers : List Watcher} {line : Text}
    (overlook : ∀ watcher ∈ watchers, watcher.Overlooks line) (lines : List Text) :
    (ofWatchers watchers).attempts (line :: lines) = (ofWatchers watchers).attempts lines := by
  have silent : (ofWatchers watchers).flatMap (·.answer line) = [] := by
    rw [List.flatMap_eq_nil_iff]
    intro watch member
    obtain ⟨watcher, inside, rfl⟩ := List.mem_map.1 member
    exact congrArg Prod.fst (overlook watcher inside)
  have same : (ofWatchers watchers).map (·.next line) = ofWatchers watchers := by
    rw [ofWatchers, List.map_map]
    apply List.map_congr_left
    intro watcher inside
    exact congrArg (Watch.mk watcher) (congrArg Prod.snd (overlook watcher inside))
  rw [attempts, silent, same, List.nil_append]

theorem SwiftPass.outcomes_cons_of_not_isCandidate (skip : Nat) {line : Text}
    (other : Swift.isCandidate line = false) (lines : List Text) :
    outcomes skip (line :: lines) = outcomes skip lines := by
  simp [outcomes, outcomesFrom, step, other]

structure FallbackPass.Foreign (line : Text) : Prop where
  noBlock : ¬ "✘ [ERROR] ".toList <+: line
  noLabel : ¬ "Error: ".toList <+: line
  noBatch : ¬ "- error TS".toList <:+: line
  noSuite : ¬ "FAIL ".toList <+: line

theorem FallbackPass.Foreign.overlooked {line : Text} (foreign : Foreign line) :
    ∀ watcher ∈ watchers, watcher.Overlooks line := by
  simp only [watchers, List.forall_mem_cons]
  refine ⟨?nested, ?statement, ?title, List.forall_mem_nil _⟩
  case nested => exact Watcher.overlooks_distant _ (nestedHeader?_eq_none foreign.noBlock)
  case statement =>
    apply Watcher.overlooks_single
    rw [TypeScript.statement?, after?_eq_none_iff.2 foreign.noLabel,
      cut?_eq_none_iff.2 foreign.noBatch]
    rfl
  case title => exact Watcher.overlooks_patient _ (suite?_eq_none foreign.noSuite)

/-! ## Repeated commands -/

namespace Capture

def commandMark : Text := "[error] Command line invocation:".toList

/-- A line that repeats a command and in which the command itself looks like no problem and is not
the sentinel of a Swift log. -/
structure Repeats (settings : Settings) (line : Text) : Prop where
  starts : commandMark <+: line
  noCandidate : Swift.isCandidate line = false
  noSentinel : settings.xcodeSentinel ≠ [] → ¬ settings.xcodeSentinel <:+: line
  noBatch : ¬ "- error TS".toList <:+: line

theorem not_prefix_of_command {mark line : Text} (starts : commandMark <+: line)
    (apart : ¬ mark <+: commandMark ∧ ¬ commandMark <+: mark) : ¬ mark <+: line := by
  intro marked
  exact (List.prefix_or_prefix_of_prefix marked starts).elim apart.1 apart.2

theorem Repeats.foreign {settings : Settings} {line : Text} (repeats : Repeats settings line) :
    FallbackPass.Foreign line where
  noBlock := not_prefix_of_command repeats.starts (by decide)
  noLabel := not_prefix_of_command repeats.starts (by decide)
  noBatch := repeats.noBatch
  noSuite := not_prefix_of_command repeats.starts (by decide)

section Lines
variable (text folder : Text) {line first : Text} {rest : List Text}

theorem lines_cons :
    lines { text, logs := line :: first :: rest, folder } =
      normalizeLine line :: lines { text, logs := first :: rest, folder } := by
  rw [lines_of_logs (List.cons_ne_nil _ _), lines_of_logs (List.cons_ne_nil _ _), List.map_cons]

theorem scannedLines_cons (starts : commandMark <+: normalizeLine line) :
    scannedLines { text, logs := line :: first :: rest, folder } =
      lines { text, logs := first :: rest, folder } := by
  rw [scannedLines, lines_cons]
  exact if_pos (startsWith_iff.2 starts)

theorem scannedLines_of_other (other : ¬ commandMark <+: normalizeLine first) :
    scannedLines { text, logs := first :: rest, folder } =
      lines { text, logs := first :: rest, folder } := by
  rw [scannedLines, lines_of_logs (List.cons_ne_nil _ _), List.map_cons]
  exact if_neg fun starts => other (startsWith_iff.1 starts)

theorem fallbackLines_cons (line first : Text) (rest : List Text) :
    fallbackLines { text, logs := line :: first :: rest, folder } =
        normalizeLine line :: fallbackLines { text, logs := first :: rest, folder } ∨
      fallbackLines { text, logs := line :: first :: rest, folder } =
        fallbackLines { text, logs := first :: rest, folder } := by
  by_cases empty : Terminal.strip text = []
  · left
    rw [fallbackLines, fallbackLines, plainText, plainText, if_pos empty, if_pos empty, lines_cons]
  · right
    rw [fallbackLines, fallbackLines, plainText, plainText, if_neg empty, if_neg empty]

theorem isSwiftLog_cons {settings : Settings} (repeats : Repeats settings (normalizeLine line)) :
    isSwiftLog settings { text, logs := line :: first :: rest, folder } =
      isSwiftLog settings { text, logs := first :: rest, folder } := by
  rw [isSwiftLog, isSwiftLog, lines_cons, List.any_cons]
  by_cases empty : settings.xcodeSentinel = []
  · simp [empty]
  · have absent : occursIn settings.xcodeSentinel (normalizeLine line) = false := by
      rw [← Bool.not_eq_true, occursIn_iff]
      exact repeats.noSentinel empty
    rw [absent, Bool.false_or]

end Lines

end Capture

/-! ## What is found behind a repeated command -/

namespace Findings

section Repeats
variable {settings : Settings} (text folder : Text) {line first : Text} {rest : List Text}
  (repeats : Capture.Repeats settings (normalizeLine line))
include repeats

theorem ofSwift_cons :
    ofSwift settings { text, logs := line :: first :: rest, folder } =
      ofSwift settings { text, logs := first :: rest, folder } := by
  rw [ofSwift, Capture.lines_cons, SwiftPass.outcomes_cons_of_not_isCandidate _ repeats.noCandidate,
    ofSwift]

theorem ofLines_cons (other : ¬ Capture.commandMark <+: normalizeLine first) :
    ofLines settings { text, logs := line :: first :: rest, folder } =
      ofLines settings { text, logs := first :: rest, folder } := by
  rw [ofLines, Capture.scannedLines_cons text folder repeats.starts, ofLines,
    Capture.scannedLines_of_other text folder other]

theorem ofFallback_cons :
    ofFallback { text, logs := line :: first :: rest, folder } =
      ofFallback { text, logs := first :: rest, folder } := by
  rw [ofFallback, ofFallback]
  rcases Capture.fallbackLines_cons text folder line first rest with longer | same
  · have overlooked := Panel.attempts_cons_of_overlooks repeats.foreign.overlooked
    rw [longer, FallbackPass.attempts, overlooked, ← FallbackPass.attempts]
  · rw [same]

end Repeats

end Findings

namespace Extraction

/-- A line that repeats the command changes nothing in front of a log whose own first line is
another one. -/
theorem ofCapture_cons_repeats (settings : Settings) (text folder : Text) {line first : Text}
    {rest : List Text} (repeats : Capture.Repeats settings (normalizeLine line))
    (other : ¬ Capture.commandMark <+: normalizeLine first) :
    ofCapture settings { text, logs := line :: first :: rest, folder } =
      ofCapture settings { text, logs := first :: rest, folder } := by
  have sameKind : Capture.isSwiftLog settings { text, logs := line :: first :: rest, folder } =
      Capture.isSwiftLog settings { text, logs := first :: rest, folder } :=
    Capture.isSwiftLog_cons text folder repeats
  cases kind : Capture.isSwiftLog settings { text, logs := first :: rest, folder } with
  | true =>
      rw [ofCapture_of_swiftLog kind, ofCapture_of_swiftLog (sameKind.trans kind),
        Findings.ofSwift_cons text folder repeats]
  | false =>
      rw [ofCapture_of_not_swiftLog kind, ofCapture_of_not_swiftLog (sameKind.trans kind)]
      apply runPasses_congr
      intro pass member
      simp only [passes, List.mem_cons, List.not_mem_nil, or_false] at member
      rcases member with rfl | rfl | rfl
      · rfl
      · exact congrArg Findings.diagnostics (Findings.ofLines_cons text folder repeats other)
      · exact congrArg Findings.diagnostics (Findings.ofFallback_cons text folder repeats)

/-- The command is coloured, and behind it a place is looked for two lines below its header. -/
theorem ofCapture_cons_repeats_coloured :
    let line := "\x1b[31m[error] Command line invocation:\x1b[0m xcodebuild build\r".toList
    let first := "✘ [ERROR] Could not resolve \"x\"".toList
    let rest := [[], "    src/a.ts:3:7:".toList]
    Capture.Repeats {} (normalizeLine line) ∧ ¬ Capture.commandMark <+: normalizeLine first ∧
      (ofCapture {} { logs := first :: rest }).diagnostics =
        [⟨.viteBlock, "src/a.ts".toList, 2, 6, "Could not resolve \"x\"".toList⟩] ∧
      ofCapture {} { logs := line :: first :: rest } =
        ofCapture {} { logs := first :: rest } := by
  intro line first rest
  have shown : normalizeLine line =
      "[error] Command line invocation: xcodebuild build".toList := by decide +kernel
  have noSentinel : ¬ "Building xArchive".toList <:+: normalizeLine line := by
    rw [shown, ← occursIn_iff]
    decide
  have noBatch : ¬ "- error TS".toList <:+: normalizeLine line := by
    rw [shown, ← occursIn_iff]
    decide
  have repeats : Capture.Repeats {} (normalizeLine line) :=
    { starts := by rw [shown]; decide
      noCandidate := by rw [shown]; decide
      noSentinel := fun _ => noSentinel
      noBatch }
  have other : ¬ Capture.commandMark <+: normalizeLine first := by decide +kernel
  exact ⟨repeats, other, by decide +kernel, ofCapture_cons_repeats {} [] [] repeats other⟩

end Extraction

end BuildLog
