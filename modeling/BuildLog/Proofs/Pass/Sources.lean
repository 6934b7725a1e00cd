import BuildLog.Pass.Layouts
import BuildLog.Proofs.Pass.Readings
import BuildLog.Proofs.Pass.SwiftWindows
import BuildLog.Proofs.Recognizer.Recognized

/-!
# The lines behind the attempts of a pass

What a pass attempts is recognized at the lines that it is shown.  A watcher keeps what a header has
opened and nothing else, so this holds for layouts of several lines as it does for those of one.
-/

set_option autoImplicit false

namespace BuildLog

open Text

/-- Whatever lines a watcher is shown, its attempts are recognized at them. -/
def Watcher.Faithful (watcher : Watcher) : Prop :=
  ∀ lines attempt, watcher.Tries lines attempt → Recognized lines attempt

theorem Panel.recognized_of_mem_attempts {watchers : List Watcher}
    (faithful : ∀ watcher ∈ watchers, watcher.Faithful) {lines : List Text}
    {diagnostic : Diagnostic}
    (found : diagnostic ∈ ((ofWatchers watchers).attempts lines).filterMap Attempt.accepted?) :
    Recognized lines (.ok diagnostic) := by
  obtain ⟨attempt, member, accepted⟩ := List.mem_filterMap.1 found
  obtain ⟨watcher, inside, tries⟩ := exists_tries_of_mem_attempts member
  obtain rfl := Attempt.accepted?_eq_some_iff.1 accepted
  exact faithful watcher inside lines _ tries

/-! ## The line pass -/

namespace LinePass

theorem faithful_lintWatcher (format : Format) (endings : List Text)
    (lint : format = .eslint ∨ format = .vue) : (lintWatcher format endings).Faithful := by
  rintro lines attempt ⟨header, above, line, member, file, opened, rfl⟩
  have file_eq : trim header = file := by
    unfold fileNamed? at opened
    split at opened
    · exact Option.some.inj opened
    · cases opened
  subst file_eq
  exact ⟨_, .entry lint above member, rfl⟩

theorem faithful_watchers (settings : Settings) (folder : Text) :
    ∀ watcher ∈ watchers settings folder, watcher.Faithful := by
  simp only [watchers, List.forall_mem_cons]
  refine ⟨faithful_lintWatcher _ _ (.inl rfl), ?wrapped, ?parenthesized, ?component,
    ?syntaxError, ?java, ?frame, faithful_lintWatcher _ _ (.inr rfl), List.forall_mem_nil _⟩
  case wrapped =>
    rintro lines attempt ⟨header, above, line, member, rest, opened, rfl⟩
    exact ⟨_, .wrapped above opened member, rfl⟩
  case parenthesized =>
    rintro lines attempt ⟨line, member, found⟩
    obtain ⟨⟨place, message⟩, cut, rfl⟩ := Option.map_eq_some_iff.1 found
    exact ⟨_, .parenthesized member cut, rfl⟩
  case component =>
    rintro lines attempt ⟨header, above, line, member, place, opened, found⟩
    cases found
    obtain ⟨⟨front, _⟩, cut, same⟩ := Option.map_eq_some_iff.1 opened
    cases same
    exact ⟨_, .component above cut member, rfl⟩
  case syntaxError =>
    rintro lines attempt ⟨line, member, found⟩
    obtain ⟨rest, marked, rfl⟩ := Option.map_eq_some_iff.1 found
    exact ⟨_, .syntaxError member marked, rfl⟩
  case java =>
    rintro lines attempt ⟨header, above, line, member, kept, opened, rfl⟩
    have whole : header = kept := by
      unfold Java.header? at opened
      split at opened
      · exact Option.some.inj opened
      · cases opened
    subst whole
    exact ⟨_, .java above member, rfl⟩
  case frame =>
    rintro lines attempt ⟨header, above, line, member, message, opened, rfl⟩
    unfold TestRunner.errorMessage? at opened
    split at opened
    · cases opened
    · obtain ⟨⟨front, shown⟩, cut, rfl⟩ := Option.map_eq_some_iff.1 opened
      exact ⟨_, .frame above cut member, rfl⟩

end LinePass

/-! ## The fallback pass -/

namespace FallbackPass

theorem faithful_watchers : ∀ watcher ∈ watchers, watcher.Faithful := by
  simp only [watchers, List.forall_mem_cons]
  refine ⟨?nested, ?statement, ?title, List.forall_mem_nil _⟩
  case nested =>
    rintro lines attempt ⟨header, above, line, member, message, opened, rfl⟩
    obtain ⟨_, -, rfl⟩ := Option.map_eq_some_iff.1 opened
    exact ⟨_, .nested above member, rfl⟩
  case statement =>
    rintro lines attempt ⟨line, member, found⟩
    unfold TypeScript.statement? at found
    split at found
    · next rest marked =>
        cases found
        exact ⟨_, .labelled member marked, rfl⟩
    · obtain ⟨⟨place, rest⟩, cut, rfl⟩ := Option.map_eq_some_iff.1 found
      exact ⟨_, .batch member cut, rfl⟩
  case title =>
    rintro lines attempt ⟨header, above, line, member, path, opened, found⟩
    obtain ⟨suite, marked, rfl⟩ := Option.map_eq_some_iff.1 opened
    unfold readBelowSuite at found
    split at found
    · cases found
    · cases found
      exact ⟨_, .title above marked member, rfl⟩

end FallbackPass

/-! ## The block pass -/

namespace BlockPass

def Detector.Faithful (detector : Detector) : Prop :=
  ∀ lines block, BlockOf lines block → Recognized lines (detector.reads block)

theorem faithful_detectors : ∀ detector ∈ detectors, detector.Faithful := by
  simp only [detectors, List.forall_mem_cons]
  refine ⟨?compilation, ?report, ?block, List.forall_mem_nil _⟩
  case compilation => exact fun _ _ inside => ⟨_, .compilation inside, rfl⟩
  case report => exact fun _ _ inside => ⟨_, .report inside, rfl⟩
  case block => exact fun _ _ inside => ⟨_, .block inside, rfl⟩

theorem exists_detector_of_mem {text : Text} {detectors : List Detector} {attempt : Attempt}
    (member : attempt ∈ attemptsOf text detectors) :
    ∃ detector ∈ detectors, detector.reads (linesOf text) = attempt := by
  induction detectors with
  | nil => cases member
  | cons detector rest ih =>
      unfold attemptsOf at member
      split at member
      · split at member
        · next success =>
            obtain rfl := List.mem_singleton.1 member
            exact ⟨detector, List.mem_cons_self, success⟩
        · next failed =>
            rcases List.mem_cons.1 member with rfl | later
            · exact ⟨detector, List.mem_cons_self, failed⟩
            · obtain ⟨other, inside, reads⟩ := ih later
              exact ⟨other, List.mem_cons_of_mem detector inside, reads⟩
      · obtain ⟨other, inside, reads⟩ := ih member
        exact ⟨other, List.mem_cons_of_mem detector inside, reads⟩

theorem recognized_of_mem_attempts {text : Text} {lines : List Text} {diagnostic : Diagnostic}
    (inside : BlockOf lines (linesOf text))
    (found : diagnostic ∈ (attempts text).filterMap Attempt.accepted?) :
    Recognized lines (.ok diagnostic) := by
  obtain ⟨attempt, member, accepted⟩ := List.mem_filterMap.1 found
  obtain ⟨detector, known, rfl⟩ := exists_detector_of_mem member
  rw [← Attempt.accepted?_eq_some_iff.1 accepted]
  exact faithful_detectors detector known lines _ inside

end BlockPass

/-! ## The Swift pass -/

theorem SwiftPass.recognized_of_mem_outcomes {skip : Nat} {lines : List Text}
    {diagnostic : Diagnostic}
    (found : diagnostic ∈ (outcomes skip lines).filterMap Outcome.accepted?) :
    Recognized lines (.ok diagnostic) := by
  obtain ⟨window, candidate, context, makes⟩ := exists_window_of_mem found
  have above := List.mem_of_getElem? makes.waiting.here
  have member := List.mem_of_getElem? makes.here
  exact ⟨_, .swift above member, makes.read⟩

end BuildLog
