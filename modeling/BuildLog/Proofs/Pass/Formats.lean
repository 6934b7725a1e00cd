import BuildLog.Proofs.Pass.LintLists
import BuildLog.Proofs.Pass.Sources
import BuildLog.Proofs.Pass.SwiftWindows

/-!
# The formats of a pass

Each phase has formats of its own, and every attempt that its pass makes, whether it succeeds or
not, is of one of them.
-/

set_option autoImplicit false

namespace BuildLog

open Text

def Phase.formats : Phase → List Format
  | .xcode => [.xcode]
  | .wholeBlob => [.nextJs, .lintStyle, .esbuild]
  | .lineScan => LinePass.formats
  | .fallback => [.genericError, .typescriptBatch, .jest, .viteBlock]

/-- What the pass of a phase makes of a text: an attempt of a reader of one of its formats. -/
def Phase.Owns (phase : Phase) (attempt : Attempt) : Prop :=
  ∃ format ∈ phase.formats, format.Owns attempt

/-! ## Panels -/

theorem Panel.owns_of_mem_attempts {formats : List Format} {watchers : List Watcher}
    (reads : ∀ watcher ∈ watchers, watcher.Reads formats) {lines : List Text} {attempt : Attempt}
    (member : attempt ∈ (ofWatchers watchers).attempts lines) :
    ∃ format ∈ formats, format.Owns attempt := by
  obtain ⟨watcher, inside, tries⟩ := exists_tries_of_mem_attempts member
  exact reads watcher inside lines attempt tries

theorem Watcher.Reads.of_subset {watcher : Watcher} {some all : List Format}
    (reads : watcher.Reads some) (within : some ⊆ all) : watcher.Reads all := by
  intro lines attempt tries
  obtain ⟨format, member, owns⟩ := reads lines attempt tries
  exact ⟨format, within member, owns⟩

theorem Panel.reads_of_forall₂ {formats : List Format} {watchers : List Watcher}
    (reads : List.Forall₂ (fun format watcher => Watcher.Reads [format] watcher) formats watchers) :
    ∀ watcher ∈ watchers, watcher.Reads formats := by
  induction reads with
  | nil => exact List.forall_mem_nil _
  | @cons format watcher formats watchers first rest ih =>
      rintro other member
      rcases List.mem_cons.1 member with rfl | later
      · exact first.of_subset (List.cons_subset.2 ⟨List.mem_cons_self, List.nil_subset _⟩)
      · exact (ih other later).of_subset (List.subset_cons_self format formats)

theorem LinePass.owns_of_mem_attempts {settings : Settings} {folder : Text} {lines : List Text}
    {attempt : Attempt} (member : attempt ∈ attempts settings folder lines) :
    Phase.Owns .lineScan attempt :=
  Panel.owns_of_mem_attempts (Panel.reads_of_forall₂ (reads_watchers settings folder)) member

namespace FallbackPass

def suiteWatcher : Watcher :=
  .patient TestRunner.suite? readBelowSuite

theorem reads_nested :
    (Watcher.distant Bundler.nestedHeader? Bundler.readNested).Reads [.viteBlock] := by
  rintro lines attempt ⟨-, -, line, -, message, -, rfl⟩
  exact ⟨_, List.mem_singleton_self _, Bundler.owns_readNested message line⟩

theorem reads_statement :
    (Watcher.single TypeScript.statement?).Reads [.genericError, .typescriptBatch] := by
  rintro lines attempt ⟨line, -, found⟩
  unfold TypeScript.statement? at found
  split at found
  · next rest _ =>
      cases found
      exact ⟨_, List.mem_cons_self, TypeScript.owns_readLabelled line rest⟩
  · obtain ⟨sides, -, rfl⟩ := Option.map_eq_some_iff.1 found
    exact ⟨_, List.mem_cons_of_mem _ List.mem_cons_self, TypeScript.owns_readBatch sides.1 _⟩

theorem reads_suite : suiteWatcher.Reads [.jest] := by
  rintro lines attempt ⟨-, -, line, -, path, -, found⟩
  unfold readBelowSuite at found
  split at found
  · cases found
  · cases found
    exact ⟨_, List.mem_singleton_self _, TestRunner.owns_readTitle path line⟩

theorem reads_watchers : ∀ watcher ∈ watchers, watcher.Reads (Phase.formats .fallback) := by
  simp only [watchers, List.forall_mem_cons]
  exact ⟨reads_nested.of_subset (by decide), reads_statement.of_subset (by decide),
    reads_suite.of_subset (by decide), List.forall_mem_nil _⟩

theorem owns_of_mem_attempts {lines : List Text} {attempt : Attempt}
    (member : attempt ∈ attempts lines) : Phase.Owns .fallback attempt :=
  Panel.owns_of_mem_attempts reads_watchers member

end FallbackPass

/-! ## The block pass -/

namespace BlockPass

theorem owns_of_mem_detectors {detector : Detector} (member : detector ∈ detectors)
    (lines : List Text) : Phase.Owns .wholeBlob (detector.reads lines) := by
  simp only [detectors, List.mem_cons, List.not_mem_nil, or_false] at member
  rcases member with rfl | rfl | rfl
  · exact ⟨_, by decide, Bundler.owns_readCompilation lines⟩
  · exact ⟨_, by decide, Lint.owns_readReport lines⟩
  · exact ⟨_, by decide, Bundler.owns_readBlock lines⟩

theorem owns_of_mem_attempts {text : Text} {attempt : Attempt}
    (member : attempt ∈ attempts text) : Phase.Owns .wholeBlob attempt := by
  obtain ⟨detector, inside, rfl⟩ := exists_detector_of_mem member
  exact owns_of_mem_detectors inside (linesOf text)

end BlockPass

/-! ## The Swift pass -/

namespace SwiftPass

theorem owns_of_mem_step {skip : Nat} {state : State} {line candidate : Text} {attempt : Attempt}
    (member : Outcome.read candidate attempt ∈ (step skip state line).1) :
    Phase.Owns .xcode attempt := by
  cases state with
  | searching left =>
      cases left with
      | zero => cases member
      | succ left => cases member
  | holding held =>
      rw [step] at member
      split at member
      · cases List.mem_singleton.1 member
      · split at member
        · cases member
        · cases List.mem_singleton.1 member
          exact ⟨_, List.mem_cons_self, Swift.owns_read candidate line⟩

theorem owns_of_mem_outcomesFrom {skip : Nat} {state : State} {lines : List Text}
    {candidate : Text} {attempt : Attempt}
    (member : Outcome.read candidate attempt ∈ outcomesFrom skip state lines) :
    Phase.Owns .xcode attempt := by
  induction lines generalizing state with
  | nil =>
      cases state with
      | searching left => cases member
      | holding held => cases List.mem_singleton.1 member
  | cons line lines ih =>
      rcases List.mem_append.1 member with here | later
      · exact owns_of_mem_step here
      · exact ih later

end SwiftPass

/-! ## What is accepted -/

theorem Phase.Owns.format_mem {phase : Phase} {diagnostic : Diagnostic}
    (owns : phase.Owns (.ok diagnostic)) : diagnostic.format ∈ phase.formats := by
  obtain ⟨format, member, owns⟩ := owns
  have same : diagnostic.format = format := owns.format_eq
  exact same ▸ member

theorem format_of_mem_accepted {phase : Phase} {attempts : List Attempt}
    (owns : ∀ attempt ∈ attempts, phase.Owns attempt) :
    ∀ diagnostic ∈ attempts.filterMap Attempt.accepted?, diagnostic.format ∈ phase.formats := by
  intro diagnostic found
  obtain ⟨attempt, member, accepted⟩ := List.mem_filterMap.1 found
  obtain rfl := Attempt.accepted?_eq_some_iff.1 accepted
  exact (owns _ member).format_mem

theorem SwiftPass.format_of_mem_accepted (skip : Nat) (lines : List Text) :
    ∀ diagnostic ∈ (outcomes skip lines).filterMap Outcome.accepted?,
      diagnostic.format ∈ Phase.formats .xcode := by
  intro diagnostic found
  obtain ⟨outcome, member, accepted⟩ := List.mem_filterMap.1 found
  cases outcome with
  | replaced candidate => cases accepted
  | unpaired candidate => cases accepted
  | read candidate attempt =>
      obtain rfl := Attempt.accepted?_eq_some_iff.1 accepted
      exact (owns_of_mem_outcomesFrom member).format_mem

end BuildLog
