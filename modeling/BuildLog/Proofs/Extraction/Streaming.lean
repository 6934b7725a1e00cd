import BuildLog.Proofs.Extraction.Passes
import BuildLog.Proofs.Pass.SwiftWindows

/-!
# A log that grows

Output can be looked at while a build is still running.  More log lines never take a diagnostic
back: as long as the phase stays the same, the diagnostics found so far are the first ones found
later, and the phase itself can only move towards the passes that are tried first.
-/

set_option autoImplicit false

namespace BuildLog

/-- How early a phase is tried; finding nothing comes last. -/
def Phase.rank : Option Phase → Nat
  | none => 0
  | some .fallback => 1
  | some .lineScan => 2
  | some .wholeBlob => 3
  | some .xcode => 4

theorem Panel.attempts_prefix (panel : Panel) {early late : List Text} (grown : early <+: late) :
    panel.attempts early <+: panel.attempts late := by
  obtain ⟨more, rfl⟩ := grown
  exact ⟨_, (panel.attempts_append early more).symm⟩

theorem SwiftPass.recordsFrom_prefix (skip : Nat) (state : State) {early late : List Text}
    (grown : early <+: late) : recordsFrom skip state early <+: recordsFrom skip state late := by
  obtain ⟨more, rfl⟩ := grown
  exact ⟨_, (recordsFrom_append skip state early more).symm⟩

/-- One capture holds what another one held when fewer log lines were there. -/
structure Capture.Grown (early late : Capture) : Prop where
  text : early.text = late.text
  folder : early.folder = late.folder
  started : early.logs ≠ []
  logs : early.logs <+: late.logs

namespace Capture.Grown
variable {early late : Capture} (grown : early.Grown late)
include grown

theorem plainText : early.plainText = late.plainText := by
  rw [Capture.plainText, Capture.plainText, grown.text]

theorem lines : early.lines <+: late.lines := by
  have startedLate : late.logs ≠ [] := fun empty =>
    grown.started (List.prefix_nil.1 (empty ▸ grown.logs))
  rw [Capture.lines, Capture.lines, if_neg grown.started, if_neg startedLate]
  exact grown.logs.map normalizeLine

theorem lines_ne_nil : early.lines ≠ [] := by
  rw [Capture.lines, if_neg grown.started]
  simpa using grown.started

/-- The first line is there from the start, so it is decided once whether it is left out. -/
theorem scannedLines : early.scannedLines <+: late.scannedLines := by
  obtain ⟨more, split⟩ := grown.lines
  rw [Capture.scannedLines, Capture.scannedLines, ← split]
  cases first : early.lines with
  | nil => exact absurd first grown.lines_ne_nil
  | cons line rest =>
      simp only [List.cons_append]
      split
      · exact List.prefix_append rest more
      · exact List.prefix_append (line :: rest) more

theorem fallbackLines : early.fallbackLines <+: late.fallbackLines := by
  rw [Capture.fallbackLines, Capture.fallbackLines, grown.plainText]
  split
  · exact grown.lines
  · exact List.prefix_refl _

theorem isSwiftLog {settings : Settings} (swift : early.isSwiftLog settings = true) :
    late.isSwiftLog settings = true := by
  simp only [Capture.isSwiftLog, Bool.and_eq_true, List.any_eq_true] at swift ⊢
  obtain ⟨sentinel, line, member, present⟩ := swift
  exact ⟨sentinel, line, grown.lines.mem member, present⟩

theorem diagnostics_ofSwift (settings : Settings) :
    (Findings.ofSwift settings early).diagnostics <+:
      (Findings.ofSwift settings late).diagnostics :=
  SwiftPass.recordsFrom_prefix settings.xcodeContextSkip _ grown.lines

theorem diagnostics_ofLines (settings : Settings) :
    (Findings.ofLines settings early).diagnostics <+:
      (Findings.ofLines settings late).diagnostics := by
  simp only [Findings.ofLines, LinePass.attempts, grown.folder]
  exact (Panel.attempts_prefix _ grown.scannedLines).filterMap _

theorem diagnostics_ofFallback :
    (Findings.ofFallback early).diagnostics <+: (Findings.ofFallback late).diagnostics := by
  simp only [Findings.ofFallback, FallbackPass.attempts]
  exact (Panel.attempts_prefix _ grown.fallbackLines).filterMap _

theorem diagnostics_of_mem_passes {settings : Settings} {pass : Phase × (Capture → Findings)}
    (member : pass ∈ Extraction.passes settings) :
    (pass.2 early).diagnostics <+: (pass.2 late).diagnostics := by
  simp only [Extraction.passes, List.mem_cons, List.not_mem_nil, or_false] at member
  rcases member with rfl | rfl | rfl
  · simp only [Findings.ofBlock, grown.plainText]
    exact List.prefix_refl _
  · exact grown.diagnostics_ofLines settings
  · exact grown.diagnostics_ofFallback

end Capture.Grown

namespace Extraction

/-- What a later extraction keeps of an earlier one. -/
def Extends (late early : Extraction) : Prop :=
  Phase.rank early.phase ≤ Phase.rank late.phase ∧
    (early.phase = late.phase → early.diagnostics <+: late.diagnostics)

theorem rank_runPasses_lt (capture : Capture) {bound : Nat} (positive : 0 < bound)
    (passes : List (Phase × (Capture → Findings)))
    (below : ∀ pass ∈ passes, Phase.rank (some pass.1) < bound) :
    Phase.rank (runPasses capture passes).1.phase < bound := by
  induction passes with
  | nil => exact positive
  | cons pass rest ih =>
      obtain ⟨phase, pass⟩ := pass
      by_cases nothing : (pass capture).diagnostics = []
      · rw [runPasses_of_nothing rest nothing]
        exact ih fun other member => below other (List.mem_cons_of_mem _ member)
      · rw [runPasses_of_something rest nothing]
        exact below _ List.mem_cons_self

/-- A pass that has found something keeps it, and a pass that has found nothing so far can only
take the run away from the passes behind it. -/
theorem runPasses_extends {early late : Capture} (passes : List (Phase × (Capture → Findings)))
    (descending : passes.Pairwise fun first second =>
      Phase.rank (some second.1) < Phase.rank (some first.1))
    (grows : ∀ pass ∈ passes, (pass.2 early).diagnostics <+: (pass.2 late).diagnostics) :
    (runPasses late passes).1.Extends (runPasses early passes).1 := by
  induction passes with
  | nil => exact ⟨Nat.le_refl _, fun _ => List.prefix_refl _⟩
  | cons pass rest ih =>
      obtain ⟨phase, pass⟩ := pass
      obtain ⟨lower, descending⟩ := List.pairwise_cons.1 descending
      have here : (pass early).diagnostics <+: (pass late).diagnostics :=
        grows _ List.mem_cons_self
      have later := ih descending fun other member => grows other (List.mem_cons_of_mem _ member)
      by_cases nothing : (pass early).diagnostics = []
      · rw [runPasses_of_nothing rest nothing]
        by_cases stillNothing : (pass late).diagnostics = []
        · rw [runPasses_of_nothing rest stillNothing]
          exact later
        · -- the pass has caught up with those behind it, so the phase is another one now
          rw [runPasses_of_something rest stillNothing]
          have positive : 0 < Phase.rank (some phase) := by cases phase <;> decide
          have behind := rank_runPasses_lt early positive rest lower
          refine ⟨Nat.le_of_lt behind, ?_⟩
          intro samePhase
          rw [samePhase] at behind
          exact absurd behind (Nat.lt_irrefl _)
      · have still : (pass late).diagnostics ≠ [] := fun empty =>
          nothing (List.prefix_nil.1 (empty ▸ here))
        rw [runPasses_of_something rest nothing, runPasses_of_something rest still]
        exact ⟨Nat.le_refl _, fun _ => here⟩

theorem rank_le_xcode (phase : Option Phase) : Phase.rank phase ≤ Phase.rank (some .xcode) := by
  rcases phase with _ | _ | _ | _ | _ <;> decide

theorem descending_passes (settings : Settings) :
    (passes settings).Pairwise fun first second =>
      Phase.rank (some second.1) < Phase.rank (some first.1) := by
  simp [passes, Phase.rank]

theorem ofCapture_extends_of_grown (settings : Settings) {early late : Capture}
    (grown : early.Grown late) :
    (ofCapture settings late).Extends (ofCapture settings early) := by
  cases swiftEarly : early.isSwiftLog settings with
  | true =>
      rw [ofCapture_of_swiftLog swiftEarly, ofCapture_of_swiftLog (grown.isSwiftLog swiftEarly)]
      exact ⟨Nat.le_refl _, fun _ => grown.diagnostics_ofSwift settings⟩
  | false =>
      have earlyRun := ofCapture_of_not_swiftLog swiftEarly
      cases swiftLate : late.isSwiftLog settings with
      | true =>
          rw [ofCapture_of_swiftLog swiftLate]
          refine ⟨rank_le_xcode _, ?_⟩
          intro samePhase
          have below : Phase.rank (ofCapture settings early).phase < 4 := by
            rw [earlyRun]
            apply rank_runPasses_lt early (by decide)
            simp [passes, Phase.rank]
          rw [samePhase] at below
          exact absurd below (Nat.lt_irrefl 4)
      | false =>
          rw [earlyRun, ofCapture_of_not_swiftLog swiftLate]
          exact runPasses_extends _ (descending_passes settings)
            fun _ member => grown.diagnostics_of_mem_passes member

/-- With the same text and folder, more log lines give an extraction that extends the one before. -/
theorem ofCapture_extends (settings : Settings) (text folder : Text) {early late : List Text}
    (started : early ≠ []) (grown : early <+: late) :
    (ofCapture settings { text, logs := late, folder }).Extends
      (ofCapture settings { text, logs := early, folder }) :=
  ofCapture_extends_of_grown settings ⟨rfl, rfl, started, grown⟩

/-- The second line of a failed suite is on its way; the third one moves the run to another pass. -/
theorem ofCapture_extends_failed_suite :
    let early := ["FAIL src/a.test.ts".toList, "  ● starts at zero".toList]
    let late := early ++ ["src/a.ts(5,3): error TS2304: Cannot find name 'x'.".toList]
    early ≠ [] ∧ early <+: late ∧
      (ofCapture {} { logs := late }).Extends (ofCapture {} { logs := early }) :=
  ⟨by decide, List.prefix_append _ _,
    ofCapture_extends {} [] [] (by decide) (List.prefix_append _ _)⟩

end Extraction

end BuildLog
