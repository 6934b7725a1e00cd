import BuildLog.Proofs.Extraction.Passes

/-!
# The course of a run

The events of a run show its course.  A Swift build log is a story of its own.  Any other output is
given to the passes in turn, so what the block pass dropped comes first, then what the line pass
dropped, then what the fallback pass dropped, and the story breaks off at the pass that finds
something.  Every run is closed by one event, which says what the run has found.
-/

set_option autoImplicit false

namespace BuildLog

namespace Event

def closes : Event → Bool
  | extracted _ _ | nothingFound _ => true
  | _ => false

def ofSwift : Event → Bool
  | candidateReplaced _ | candidateDropped _ _ | candidateUnpaired _ => true
  | _ => false

end Event

/-- The event that closes a run over some lines: what was found, or that nothing was. -/
def Extraction.closing (extraction : Extraction) (lines : Nat) : Event :=
  match extraction.phase with
  | some phase => .extracted phase extraction.diagnostics.length
  | none => .nothingFound lines

/-- The courses that a run over some lines can take. -/
inductive Trace (lines : Nat) : Extraction → List Event → Prop
  /-- A Swift build log, whether something is found in it or not. -/
  | swift (diagnostics : List Diagnostic) {candidates : List Event}
      (told : ∀ event ∈ candidates, event.ofSwift = true) :
      Trace lines ⟨some .xcode, diagnostics⟩
        (candidates ++ [.extracted .xcode diagnostics.length])
  /-- The whole output is one block; the detector that finds it is the second one at the latest. -/
  | block (diagnostic : Diagnostic) {drops : List Failure} (few : drops.length < 2) :
      Trace lines ⟨some .wholeBlob, [diagnostic]⟩
        (drops.map .blockDropped ++
          [.blockMatched diagnostic.format diagnostic.record.uri, .extracted .wholeBlob 1])
  | lineScan {diagnostics : List Diagnostic} (something : diagnostics ≠ [])
      {blockDrops : List Failure} (few : blockDrops.length ≤ 2) (lineDrops : List Failure) :
      Trace lines ⟨some .lineScan, diagnostics⟩
        (blockDrops.map .blockDropped ++ lineDrops.map .lineDropped ++
          [.extracted .lineScan diagnostics.length])
  | fallback {diagnostics : List Diagnostic} (something : diagnostics ≠ [])
      {blockDrops : List Failure} (few : blockDrops.length ≤ 2)
      (lineDrops fallbackDrops : List Failure) :
      Trace lines ⟨some .fallback, diagnostics⟩
        (blockDrops.map .blockDropped ++ lineDrops.map .lineDropped ++
          fallbackDrops.map .fallbackDropped ++ [.extracted .fallback diagnostics.length])
  | nothing {blockDrops : List Failure} (few : blockDrops.length ≤ 2)
      (lineDrops fallbackDrops : List Failure) :
      Trace lines {}
        (blockDrops.map .blockDropped ++ lineDrops.map .lineDropped ++
          fallbackDrops.map .fallbackDropped ++ [.nothingFound lines])

/-! ## The close of a trace -/

namespace Event

def Open (events : List Event) : Prop :=
  ∀ event ∈ events, event.closes = false

theorem Open.append {first second : List Event} (one : Open first) (other : Open second) :
    Open (first ++ second) :=
  List.forall_mem_append.2 ⟨one, other⟩

theorem open_map {tell : Failure → Event} (silent : ∀ failure, (tell failure).closes = false)
    (drops : List Failure) : Open (drops.map tell) := by
  intro event member
  obtain ⟨failure, -, rfl⟩ := List.mem_map.1 member
  exact silent failure

theorem open_blockDropped (drops : List Failure) : Open (drops.map blockDropped) :=
  open_map (fun _ => rfl) drops

section Drops
variable (blockDrops lineDrops fallbackDrops : List Failure)

theorem open_lineDropped : Open (blockDrops.map blockDropped ++ lineDrops.map lineDropped) :=
  (open_blockDropped blockDrops).append (open_map (fun _ => rfl) lineDrops)

theorem open_fallbackDropped :
    Open (blockDrops.map blockDropped ++ lineDrops.map lineDropped ++
      fallbackDrops.map fallbackDropped) :=
  (open_lineDropped blockDrops lineDrops).append (open_map (fun _ => rfl) fallbackDrops)

end Drops

theorem open_of_ofSwift {events : List Event} (told : ∀ event ∈ events, event.ofSwift = true) :
    Open events := by
  intro event member
  have swift := told event member
  cases event with
  | candidateReplaced candidate => rfl
  | candidateDropped failure candidate => rfl
  | candidateUnpaired candidate => rfl
  | _ => cases swift

theorem closes_closing (extraction : Extraction) (lines : Nat) :
    (extraction.closing lines).closes = true := by
  unfold Extraction.closing
  split
  · rfl
  · rfl

end Event

theorem Trace.exists_open {lines : Nat} {extraction : Extraction} {events : List Event}
    (trace : Trace lines extraction events) :
    ∃ told, Event.Open told ∧ events = told ++ [extraction.closing lines] := by
  cases trace with
  | swift diagnostics told => exact ⟨_, Event.open_of_ofSwift told, rfl⟩
  | @block diagnostic drops few =>
      have matched : Event.Open [.blockMatched diagnostic.format diagnostic.record.uri] :=
        List.forall_mem_singleton.2 rfl
      refine ⟨_, (Event.open_blockDropped drops).append matched, ?_⟩
      rw [List.append_assoc]
      rfl
  | lineScan something few lineDrops => exact ⟨_, Event.open_lineDropped _ lineDrops, rfl⟩
  | fallback something few lineDrops fallbackDrops =>
      exact ⟨_, Event.open_fallbackDropped _ lineDrops fallbackDrops, rfl⟩
  | nothing few lineDrops fallbackDrops =>
      exact ⟨_, Event.open_fallbackDropped _ lineDrops fallbackDrops, rfl⟩

theorem Trace.closed {lines : Nat} {extraction : Extraction} {events : List Event}
    (trace : Trace lines extraction events) :
    events.filter Event.closes = [extraction.closing lines] ∧
      events.getLast? = some (extraction.closing lines) := by
  obtain ⟨told, isOpen, rfl⟩ := trace.exists_open
  have unfinished : told.filter Event.closes = [] :=
    List.filter_eq_nil_iff.2 fun event member => Bool.eq_false_iff.1 (isOpen event member)
  have closing := Event.closes_closing extraction lines
  constructor
  · rw [List.filter_append, unfinished, List.filter_cons_of_pos closing]
    rfl
  · exact List.getLast?_concat

/-! ## The trace of a run -/

namespace Extraction

variable (settings : Settings) (capture : Capture)

theorem ofSwift_of_mem_events {event : Event}
    (member : event ∈ (Findings.ofSwift settings capture).events) : event.ofSwift = true := by
  obtain ⟨outcome, -, told⟩ := List.mem_filterMap.1 member
  cases outcome with
  | replaced candidate =>
      cases told
      rfl
  | unpaired candidate =>
      cases told
      rfl
  | read candidate attempt =>
      obtain ⟨failure, -, rfl⟩ := Option.map_eq_some_iff.1 told
      rfl

theorem trace_runPasses :
    Trace capture.lines.length (runPasses capture (passes settings)).1
      (runPasses capture (passes settings)).2 := by
  obtain ⟨drops, found, diagnostics, events, few⟩ := Findings.exists_ofBlock capture
  -- what the block pass has dropped stands in front, whichever pass ends the run
  cases found with
  | some diagnostic =>
      have something : (Findings.ofBlock capture).diagnostics ≠ [] := by
        rw [diagnostics]
        exact List.cons_ne_nil _ _
      rw [passes, runPasses_of_something _ something, events_of_something _ something, diagnostics,
        events, List.append_assoc]
      exact .block diagnostic (Nat.lt_of_succ_le few)
  | none =>
      rw [passes, runPasses_of_nothing _ diagnostics, events_of_nothing _ diagnostics, events,
        Option.toList_none, List.map_nil, List.append_nil]
      by_cases scanned : (Findings.ofLines settings capture).diagnostics = []
      · rw [runPasses_of_nothing _ scanned, events_of_nothing _ scanned, ← List.append_assoc]
        by_cases fallback : (Findings.ofFallback capture).diagnostics = []
        · rw [runPasses_of_nothing _ fallback, events_of_nothing _ fallback, ← List.append_assoc]
          exact .nothing few _ _
        · rw [runPasses_of_something _ fallback, events_of_something _ fallback,
            ← List.append_assoc]
          exact .fallback fallback few _ _
      · rw [runPasses_of_something _ scanned, events_of_something _ scanned, ← List.append_assoc]
        exact .lineScan scanned few _

theorem trace_traced :
    Trace capture.lines.length (traced settings capture).1 (traced settings capture).2 := by
  cases kind : capture.isSwiftLog settings with
  | true =>
      rw [traced_of_swiftLog kind]
      exact .swift _ fun _ => ofSwift_of_mem_events settings capture
  | false =>
      rw [traced_of_not_swiftLog kind]
      exact trace_runPasses settings capture

/-- Every run takes one of the courses, and exactly one of its events closes it, which is the last.
It names the phase of the extraction and counts its diagnostics, or it counts the lines in which
nothing was found. -/
theorem course_of_run :
    let run := traced settings capture
    let closing := run.1.closing capture.lines.length
    Trace capture.lines.length run.1 run.2 ∧
      run.2.filter Event.closes = [closing] ∧ run.2.getLast? = some closing := by
  have trace := trace_traced settings capture
  exact ⟨trace, trace.closed⟩

/-- Two detectors are tried in vain, and no other layout is tried at all. -/
example :
    (traced {} { text := "Failed to compile.\nan Error: no place".toList }).2 =
      [.blockDropped (.unrecognized .nextJs "input too short".toList),
        .blockDropped (.unrecognized .lintStyle "input too short".toList), .nothingFound 2] := by
  decide +kernel

end Extraction

end BuildLog
