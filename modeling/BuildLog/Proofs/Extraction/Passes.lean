import BuildLog.Extraction
import BuildLog.Pass.Layouts
import Mathlib.Data.List.Forall2
import Mathlib.Data.List.Infix

/-!
# Passes in a row

The detectors of a block, and the passes of an extraction.
-/

set_option autoImplicit false

/-! ## The course of the block pass

The detectors that apply are tried in turn.  Each of them fails, but for the last one perhaps, and no
output starts like the blocks of two tools, so at most two detectors are ever tried.
-/

namespace BuildLog.BlockPass

open Text

theorem exists_drops (text : Text) (detectors : List Detector) :
    ∃ (drops : List Failure) (found : Option Diagnostic),
      attemptsOf text detectors = drops.map .error ++ found.toList.map .ok := by
  induction detectors with
  | nil => exact ⟨[], none, rfl⟩
  | cons detector rest ih =>
      obtain ⟨drops, found, later⟩ := ih
      unfold attemptsOf
      split
      · split
        · next diagnostic _ => exact ⟨[], some diagnostic, rfl⟩
        · next failure _ =>
            rw [later]
            exact ⟨failure :: drops, found, rfl⟩
      · exact ⟨drops, found, later⟩

theorem length_attemptsOf_le (text : Text) (detectors : List Detector) :
    (attemptsOf text detectors).length ≤ detectors.countP (·.applies text) := by
  induction detectors with
  | nil => exact Nat.le_refl 0
  | cons detector rest ih =>
      unfold attemptsOf
      split
      · next applies =>
          have counted : (detector :: rest).countP (·.applies text) =
              rest.countP (·.applies text) + 1 := List.countP_cons_of_pos applies
          rw [counted]
          split
          · exact Nat.le_add_left 1 _
          · exact Nat.succ_le_succ ih
      · next silent =>
          have counted : (detector :: rest).countP (·.applies text) =
              rest.countP (·.applies text) := List.countP_cons_of_neg silent
          rwa [counted]

theorem not_startsWith_both (text : Text) :
    startsWith "Failed to compile.".toList text = false ∨
      startsWith Bundler.errorMark text = false := by
  rw [Bool.eq_false_iff, Bool.eq_false_iff, ne_eq, ne_eq, startsWith_iff, startsWith_iff,
    ← not_and_or]
  rintro ⟨compilation, block⟩
  rcases List.prefix_or_prefix_of_prefix compilation block with one | other
  · exact absurd one (by decide)
  · exact absurd other (by decide)

theorem length_attempts_le_two (text : Text) : (attempts text).length ≤ 2 := by
  refine (length_attemptsOf_le text detectors).trans ?_
  simp only [detectors, List.countP_cons, List.countP_nil]
  rcases not_startsWith_both text with absent | absent
  · simp only [absent, Bool.false_eq_true, ↓reduceIte]
    split <;> split <;> decide
  · simp only [absent, Bool.false_eq_true, ↓reduceIte]
    split <;> split <;> decide

end BuildLog.BlockPass

/-! ## The choice among the passes

A run takes the passes one after the other and ends at the first that finds something.  What comes
out depends on the diagnostics of the passes alone: captures in which every pass finds the same
give the same extraction.
-/

namespace BuildLog

/-- What the block pass finds and tells: the detectors that were tried in vain and, behind them, the
one that found something, two detectors at most. -/
theorem Findings.exists_ofBlock (capture : Capture) :
    ∃ (drops : List Failure) (found : Option Diagnostic),
      (ofBlock capture).diagnostics = found.toList ∧
        (ofBlock capture).events = drops.map .blockDropped ++
          found.toList.map (fun diagnostic =>
            .blockMatched diagnostic.format diagnostic.record.uri) ∧
        drops.length + found.toList.length ≤ 2 := by
  obtain ⟨drops, found, tried⟩ := BlockPass.exists_drops capture.plainText BlockPass.detectors
  have few := BlockPass.length_attempts_le_two capture.plainText
  rw [BlockPass.attempts, tried, List.length_append, List.length_map, List.length_map] at few
  refine ⟨drops, found, ?_, ?_, few⟩
  · rw [ofBlock, BlockPass.attempts, tried, List.filterMap_append, List.filterMap_map,
      List.filterMap_map]
    cases found with
    | none => simp [Function.comp_def, Attempt.accepted?]
    | some diagnostic => simp [Function.comp_def, Attempt.accepted?]
  · rw [ofBlock, BlockPass.attempts, tried, List.map_append, List.map_map, List.map_map]
    rfl

namespace Extraction

section Run
variable {capture : Capture} {phase : Phase} {pass : Capture → Findings}
  (rest : List (Phase × (Capture → Findings)))

theorem runPasses_of_nothing (nothing : (pass capture).diagnostics = []) :
    (runPasses capture ((phase, pass) :: rest)).1 = (runPasses capture rest).1 := by
  simp [runPasses, nothing]

theorem runPasses_of_something (something : (pass capture).diagnostics ≠ []) :
    (runPasses capture ((phase, pass) :: rest)).1 = ⟨some phase, (pass capture).diagnostics⟩ := by
  simp [runPasses, something, Findings.conclude]

theorem events_of_nothing (nothing : (pass capture).diagnostics = []) :
    (runPasses capture ((phase, pass) :: rest)).2 =
      (pass capture).events ++ (runPasses capture rest).2 := by
  simp [runPasses, nothing]

theorem events_of_something (something : (pass capture).diagnostics ≠ []) :
    (runPasses capture ((phase, pass) :: rest)).2 =
      (pass capture).events ++ [.extracted phase (pass capture).diagnostics.length] := by
  simp [runPasses, something, Findings.conclude]

end Run

theorem runPasses_cases (capture : Capture) (passes : List (Phase × (Capture → Findings))) :
    (runPasses capture passes).1 = {} ∨
      ∃ pass ∈ passes, (pass.2 capture).diagnostics ≠ [] ∧
        (runPasses capture passes).1 = ⟨some pass.1, (pass.2 capture).diagnostics⟩ := by
  induction passes with
  | nil => exact .inl rfl
  | cons pass rest ih =>
      obtain ⟨phase, pass⟩ := pass
      by_cases nothing : (pass capture).diagnostics = []
      · rw [runPasses_of_nothing rest nothing]
        refine ih.imp id ?_
        rintro ⟨other, member, found⟩
        exact ⟨other, List.mem_cons_of_mem _ member, found⟩
      · rw [runPasses_of_something rest nothing]
        exact .inr ⟨(phase, pass), List.mem_cons_self, nothing, rfl⟩

theorem forall_mem_events_runPasses {property : Event → Prop} {capture : Capture}
    {passes : List (Phase × (Capture → Findings))}
    (told : ∀ pass ∈ passes, ∀ event ∈ (pass.2 capture).events, property event)
    (extracted : ∀ phase count, property (.extracted phase count))
    (nothingFound : ∀ lines, property (.nothingFound lines)) :
    ∀ event ∈ (runPasses capture passes).2, property event := by
  induction passes with
  | nil =>
      intro event member
      cases List.mem_singleton.1 member
      exact nothingFound _
  | cons pass rest ih =>
      obtain ⟨phase, pass⟩ := pass
      obtain ⟨here, later⟩ := List.forall_mem_cons.1 told
      intro event member
      by_cases nothing : (pass capture).diagnostics = []
      · rw [events_of_nothing rest nothing] at member
        exact (List.mem_append.1 member).elim (here event) (ih later event)
      · rw [events_of_something rest nothing] at member
        rcases List.mem_append.1 member with inside | last
        · exact here event inside
        · cases List.mem_singleton.1 last
          exact extracted phase _

/-- Two runs whose passes find related lists end in the same phase and find related lists. -/
theorem runPasses_related {relation : Diagnostic → Diagnostic → Prop} {first second : Capture}
    {passes others : List (Phase × (Capture → Findings))}
    (related : List.Forall₂ (fun pass other => pass.1 = other.1 ∧
      List.Forall₂ relation (pass.2 first).diagnostics (other.2 second).diagnostics)
      passes others) :
    (runPasses first passes).1.phase = (runPasses second others).1.phase ∧
      List.Forall₂ relation (runPasses first passes).1.diagnostics
        (runPasses second others).1.diagnostics := by
  induction related with
  | nil => exact ⟨rfl, .nil⟩
  | @cons pass other rest others here later ih =>
      obtain ⟨phase, pass⟩ := pass
      obtain ⟨samePhase, other⟩ := other
      obtain ⟨rfl, found⟩ := here
      by_cases nothing : (pass first).diagnostics = []
      · have otherNothing : (other second).diagnostics = [] := by
          rw [nothing] at found
          exact List.forall₂_nil_left_iff.1 found
        rw [runPasses_of_nothing rest nothing, runPasses_of_nothing others otherNothing]
        exact ih
      · have otherSomething : (other second).diagnostics ≠ [] := by
          intro otherNothing
          rw [otherNothing] at found
          exact nothing (List.forall₂_nil_right_iff.1 found)
        rw [runPasses_of_something rest nothing, runPasses_of_something others otherSomething]
        exact ⟨rfl, found⟩

theorem runPasses_congr {first second : Capture} (passes : List (Phase × (Capture → Findings)))
    (same : ∀ pass ∈ passes, (pass.2 first).diagnostics = (pass.2 second).diagnostics) :
    (runPasses first passes).1 = (runPasses second passes).1 := by
  have related : List.Forall₂ (fun pass other => pass.1 = other.1 ∧
      List.Forall₂ (· = ·) (pass.2 first).diagnostics (other.2 second).diagnostics)
      passes passes := by
    apply List.forall₂_same.2
    intro pass member
    rw [same pass member]
    exact ⟨rfl, List.forall₂_refl _⟩
  obtain ⟨phase, diagnostics⟩ := runPasses_related related
  rw [List.forall₂_eq_eq_eq] at diagnostics
  exact congrArg₂ Extraction.mk phase diagnostics

section Kind
variable {settings : Settings} {capture : Capture}

theorem traced_of_swiftLog (swift : capture.isSwiftLog settings = true) :
    traced settings capture = (Findings.ofSwift settings capture).conclude .xcode := by
  rw [traced, if_pos swift]

theorem traced_of_not_swiftLog (other : capture.isSwiftLog settings = false) :
    traced settings capture = runPasses capture (passes settings) := by
  rw [traced, if_neg (Bool.eq_false_iff.1 other)]

theorem ofCapture_of_swiftLog (swift : capture.isSwiftLog settings = true) :
    ofCapture settings capture =
      ⟨some .xcode, (Findings.ofSwift settings capture).diagnostics⟩ :=
  congrArg Prod.fst (traced_of_swiftLog swift)

theorem ofCapture_of_not_swiftLog (other : capture.isSwiftLog settings = false) :
    ofCapture settings capture = (runPasses capture (passes settings)).1 :=
  congrArg Prod.fst (traced_of_not_swiftLog other)

end Kind

end Extraction

end BuildLog
