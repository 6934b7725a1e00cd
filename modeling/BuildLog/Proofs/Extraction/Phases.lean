import BuildLog.Proofs.Extraction.Passes
import BuildLog.Proofs.Pass.Formats

/-!
# What a phase says about an extraction

The phase of an extraction tells which pass it comes from, so it tells the formats of the
diagnostics and how many there can be: only a Swift log is reported without any.  Whether an output
is a Swift log is decided by its sentinel, before anything is read.
-/

set_option autoImplicit false

namespace BuildLog

open Text

/-- What a phase promises about the diagnostics that are reported with it. -/
def Phase.Promises : Option Phase → List Diagnostic → Prop
  | none, diagnostics => diagnostics = []
  | some .xcode, diagnostics => ∀ diagnostic ∈ diagnostics, diagnostic.format ∈ formats .xcode
  | some .wholeBlob, diagnostics =>
      ∃ diagnostic, diagnostics = [diagnostic] ∧ diagnostic.format ∈ formats .wholeBlob
  | some phase, diagnostics =>
      diagnostics ≠ [] ∧ ∀ diagnostic ∈ diagnostics, diagnostic.format ∈ phase.formats

namespace Capture

theorem isSwiftLog_iff {settings : Settings} {capture : Capture} :
    capture.isSwiftLog settings = true ↔
      settings.xcodeSentinel ≠ [] ∧ ∃ line ∈ capture.lines, settings.xcodeSentinel <:+: line := by
  simp only [isSwiftLog, Bool.and_eq_true, decide_eq_true_eq, List.any_eq_true, occursIn_iff]

end Capture

namespace Extraction

variable (settings : Settings) (capture : Capture)

theorem promises_ofBlock (something : (Findings.ofBlock capture).diagnostics ≠ []) :
    Phase.Promises (some .wholeBlob) (Findings.ofBlock capture).diagnostics := by
  have formats : ∀ diagnostic ∈ (Findings.ofBlock capture).diagnostics,
      diagnostic.format ∈ Phase.formats .wholeBlob :=
    format_of_mem_accepted fun _ => BlockPass.owns_of_mem_attempts
  obtain ⟨drops, found, single, -⟩ := Findings.exists_ofBlock capture
  cases found with
  | none => exact absurd single something
  | some diagnostic => exact ⟨diagnostic, single, formats diagnostic (single ▸ List.mem_cons_self)⟩

theorem promises_of_mem_passes {pass : Phase × (Capture → Findings)}
    (member : pass ∈ passes settings) (something : (pass.2 capture).diagnostics ≠ []) :
    Phase.Promises (some pass.1) (pass.2 capture).diagnostics := by
  simp only [passes, List.mem_cons, List.not_mem_nil, or_false] at member
  rcases member with rfl | rfl | rfl
  · exact promises_ofBlock capture something
  · exact ⟨something, format_of_mem_accepted fun _ => LinePass.owns_of_mem_attempts⟩
  · exact ⟨something, format_of_mem_accepted fun _ => FallbackPass.owns_of_mem_attempts⟩

theorem runPasses_passes_cases :
    (runPasses capture (passes settings)).1.phase ≠ some .xcode ∧
      Phase.Promises (runPasses capture (passes settings)).1.phase
        (runPasses capture (passes settings)).1.diagnostics := by
  rcases runPasses_cases capture (passes settings) with nothing | ⟨pass, member, found, same⟩
  · rw [nothing]
    exact ⟨by decide, rfl⟩
  · rw [same]
    refine ⟨?_, promises_of_mem_passes settings capture member found⟩
    simp only [passes, List.mem_cons, List.not_mem_nil, or_false] at member
    rcases member with rfl | rfl | rfl
    · simp
    · simp
    · simp

/-- An extraction is of the first phase exactly when a line holds the sentinel, and its diagnostics
are such as its phase promises. -/
theorem phase_and_diagnostics :
    ((ofCapture settings capture).phase = some .xcode ↔
      settings.xcodeSentinel ≠ [] ∧
        ∃ line ∈ capture.lines, settings.xcodeSentinel <:+: line) ∧
      Phase.Promises (ofCapture settings capture).phase
        (ofCapture settings capture).diagnostics := by
  rw [← Capture.isSwiftLog_iff]
  cases kind : capture.isSwiftLog settings with
  | true =>
      rw [ofCapture_of_swiftLog kind]
      have formats := SwiftPass.format_of_mem_accepted settings.xcodeContextSkip capture.lines
      exact ⟨by simp, formats⟩
  | false =>
      rw [ofCapture_of_not_swiftLog kind]
      obtain ⟨other, promises⟩ := runPasses_passes_cases settings capture
      exact ⟨by simp [other], promises⟩

end Extraction

end BuildLog
