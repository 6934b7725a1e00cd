import BuildLog.Pass.Layouts
import BuildLog.Proofs.Pass.LineLayouts

/-!
# Logs in segments

A log often holds the output of several builds, one after the other.  Between two of them stands a
line that ends whatever is pending and opens nothing: from there on no watcher remembers what came
before, so the second segment is read as if it were a log of its own.  The fallback pass needs two
such lines, because it looks for the place of a bundler block two lines below its header.
-/

set_option autoImplicit false

namespace BuildLog

open Text

/-! ## Watchers that forget -/

namespace Watcher

/-- Whatever the watcher remembers, it remembers nothing behind these lines. -/
def Forgets (watcher : Watcher) (lines : List Text) : Prop :=
  ∀ memory, watcher.after memory lines = watcher.start

theorem after_append (watcher : Watcher) (memory : watcher.Memory) (first second : List Text) :
    watcher.after memory (first ++ second) = watcher.after (watcher.after memory first) second := by
  simp [after]

theorem Forgets.append_left {watcher : Watcher} {lines : List Text}
    (forgets : watcher.Forgets lines) (before : List Text) : watcher.Forgets (before ++ lines) := by
  intro memory
  rw [after_append]
  exact forgets _

section Kinds
variable {opens : Text → Option Text} {line : Text}

theorem forgets_single (reads : Text → Option Attempt) (lines : List Text) :
    (single reads).Forgets lines := by
  intro memory
  rfl

theorem forgets_paired (reads : Text → Text → Attempt) (closed : opens line = none) :
    (paired opens reads).Forgets [line] := by
  intro memory
  simp [after, react, start, closed]

theorem forgets_patient (reads : Text → Text → Option Attempt) (spoken : isBlankLine line = false)
    (closed : opens line = none) : (patient opens reads).Forgets [line] := by
  intro memory
  simp [after, react, start, spoken, closed]

theorem forgets_listing {reads : Text → Text → Attempt} (closed : opens line = none)
    (foreign : ∀ header, (reads header line).accepted? = none) :
    (listing opens reads).Forgets [line] := by
  intro memory
  cases memory with
  | none => simp [after, react, start, closed]
  | some header => simp [after, react, start, closed, foreign]

theorem forgets_distant {next : Text} (reads : Text → Text → Attempt) (closed : opens line = none)
    (closedNext : opens next = none) : (distant opens reads).Forgets [line, next] := by
  intro memory
  simp [after, react, start, closed, closedNext]

end Kinds

end Watcher

namespace Panel

section Forgets
variable {watchers : List Watcher} {gap : List Text}
  (forget : ∀ watcher ∈ watchers, watcher.Forgets gap)
include forget

theorem after_of_forgets (before : List Text) :
    (ofWatchers watchers).after (before ++ gap) = ofWatchers watchers := by
  rw [after_ofWatchers, ofWatchers]
  apply List.map_congr_left
  intro watcher member
  have forgotten := (forget watcher member).append_left before watcher.start
  rw [forgotten]
  rfl

/-- Behind lines at which every watcher forgets, a log starts anew. -/
theorem attempts_append_of_forgets (first second : List Text) :
    (ofWatchers watchers).attempts (first ++ gap ++ second) =
      (ofWatchers watchers).attempts (first ++ gap) ++ (ofWatchers watchers).attempts second := by
  rw [attempts_append, after_of_forgets forget]

end Forgets

end Panel

/-! ## Lines between segments -/

theorem Lint.accepted?_readEntry_of_not_isEntry (format : Format) (file : Text) {line : Text}
    (foreign : isEntry line = false) : (readEntry format file (trim line)).accepted? = none := by
  by_cases named : trim file = []
  · rw [readEntry]
    cases Entry.read? (trim line) with
    | none => rfl
    | some entry =>
        simp [Attempt.accepted?_bind, Diagnostic.accepted?_ofOneBased, named]
  · have accepted := isSome_accepted?_readEntry format named line
    rw [foreign] at accepted
    simpa using accepted

namespace LinePass

/-- A line that belongs to nothing above it and opens nothing itself. -/
structure Separates (folder line : Text) : Prop where
  spoken : isBlankLine line = false
  noEntry : Lint.isEntry line = false
  noFile : ∀ ending ∈ [".ts".toList, ".tsx".toList, ".vue".toList], ¬ ending <:+ trim line
  noWrapped : ¬ "TypeScript error in ".toList <+: trim line
  noComponent : ¬ "error  in ".toList <:+: lowered line
  noJava : ¬ (folder ≠ [] ∧ folder <:+: line ∧ "error:".toList <:+: line)
  noFrame : ¬ ("Error:".toList <:+: line ∧ ¬ (folder ≠ [] ∧ folder <:+: line))

namespace Separates
variable {folder line : Text} (separates : Separates folder line)
include separates

theorem fileNamed?_eq_none {endings : List Text}
    (known : endings ⊆ [".ts".toList, ".tsx".toList, ".vue".toList]) :
    fileNamed? endings line = none := by
  rw [← Option.not_isSome_iff_eq_none, isSome_fileNamed?, Bool.not_eq_true, List.any_eq_false]
  intro ending member ends
  rw [endsWith, List.isSuffixOf_iff_suffix] at ends
  exact separates.noFile ending (known member) ends

theorem wrappedHeader?_eq_none : TypeScript.wrappedHeader? line = none := by
  cases found : TypeScript.wrappedHeader? line with
  | none => rfl
  | some place => exact absurd ⟨place, (after?_eq_some_iff.1 found).symm⟩ separates.noWrapped

theorem componentHeader?_eq_none : TypeScript.componentHeader? line = none := by
  have absent : cut? "error  in ".toList (lowered line) = none := by
    rw [← Option.not_isSome_iff_eq_none]
    exact fun present => separates.noComponent (occursIn_iff.1 present)
  rw [TypeScript.componentHeader?, cutLowered?, absent]
  rfl

theorem header?_eq_none : Java.header? folder line = none := by
  have absent := separates.noJava
  rw [← occursIn_iff, ← occursIn_iff] at absent
  simp only [Java.header?, Folder.names, Bool.and_eq_true, decide_eq_true_eq, ite_eq_right_iff]
  intro named
  exact absurd ⟨named.1.1, named.1.2, named.2⟩ absent

theorem errorMessage?_eq_none (settings : Settings) :
    TestRunner.errorMessage? settings folder line = none := by
  have absent := separates.noFrame
  rw [← occursIn_iff, ← occursIn_iff, occursIn] at absent
  simp only [TestRunner.errorMessage?, Folder.names, Bool.and_eq_true, decide_eq_true_eq,
    ite_eq_left_iff, Option.map_eq_none_iff]
  intro foreign
  cases found : cut? "Error:".toList line with
  | none => rfl
  | some sides =>
      rw [found] at absent
      exact absurd ⟨rfl, foreign⟩ absent

theorem forgets_lintWatcher (format : Format) {endings : List Text}
    (known : endings ⊆ [".ts".toList, ".tsx".toList, ".vue".toList]) :
    (lintWatcher format endings).Forgets [line] :=
  Watcher.forgets_listing (separates.fileNamed?_eq_none known) fun file =>
    Lint.accepted?_readEntry_of_not_isEntry format file separates.noEntry

theorem forgets (settings : Settings) :
    ∀ watcher ∈ watchers settings folder, watcher.Forgets [line] := by
  simp only [watchers, List.forall_mem_cons]
  refine ⟨?typeScript, ?wrapped, ?parenthesized, ?component, ?syntaxError, ?java, ?frame, ?vue,
    List.forall_mem_nil _⟩
  case typeScript => exact separates.forgets_lintWatcher .eslint (by decide)
  case wrapped => exact Watcher.forgets_paired _ separates.wrappedHeader?_eq_none
  case parenthesized => exact Watcher.forgets_single _ _
  case component =>
    exact Watcher.forgets_patient _ separates.spoken separates.componentHeader?_eq_none
  case syntaxError => exact Watcher.forgets_single _ _
  case java => exact Watcher.forgets_paired _ separates.header?_eq_none
  case frame => exact Watcher.forgets_paired _ (separates.errorMessage?_eq_none settings)
  case vue => exact separates.forgets_lintWatcher .vue (by decide)

end Separates

end LinePass

namespace FallbackPass

/-- Two lines that open no bundler block, the second of which ends a pending suite. -/
structure Separates (line next : Text) : Prop where
  noBlock : ¬ "✘ [ERROR] ".toList <+: line
  noBlockNext : ¬ "✘ [ERROR] ".toList <+: next
  spoken : isBlankLine next = false
  noSuite : ¬ "FAIL ".toList <+: next

theorem nestedHeader?_eq_none {line : Text} (noBlock : ¬ "✘ [ERROR] ".toList <+: line) :
    Bundler.nestedHeader? line = none := by
  cases found : after? (Bundler.errorMark ++ [' ']) line with
  | none => rw [Bundler.nestedHeader?, found, Option.map_none]
  | some rest => exact absurd ⟨rest, (after?_eq_some_iff.1 found).symm⟩ noBlock

theorem suite?_eq_none {line : Text} (noSuite : ¬ "FAIL ".toList <+: line) :
    TestRunner.suite? line = none := by
  cases found : after? "FAIL ".toList line with
  | none => rw [TestRunner.suite?, found, Option.map_none]
  | some suite => exact absurd ⟨suite, (after?_eq_some_iff.1 found).symm⟩ noSuite

theorem Separates.forgets {line next : Text} (separates : Separates line next) :
    ∀ watcher ∈ watchers, watcher.Forgets [line, next] := by
  simp only [watchers, List.forall_mem_cons]
  refine ⟨?nested, ?statement, ?title, List.forall_mem_nil _⟩
  case nested =>
    exact Watcher.forgets_distant _ (nestedHeader?_eq_none separates.noBlock)
      (nestedHeader?_eq_none separates.noBlockNext)
  case statement => exact Watcher.forgets_single _ _
  case title =>
    have closed := suite?_eq_none separates.noSuite
    exact (Watcher.forgets_patient _ separates.spoken closed).append_left [line]

end FallbackPass

/-! ## Segments -/

/-- The records of two segments are those of the first and those of the second, in both passes. -/
theorem records_of_segments (settings : Settings) (folder : Text) (first second : List Text) :
    (∀ line, LinePass.Separates folder line →
      (LinePass.attempts settings folder (first ++ [line] ++ second)).filterMap
          Attempt.accepted? =
        (LinePass.attempts settings folder (first ++ [line])).filterMap Attempt.accepted? ++
          (LinePass.attempts settings folder second).filterMap Attempt.accepted?) ∧
      ∀ line next, FallbackPass.Separates line next →
        (FallbackPass.attempts (first ++ [line, next] ++ second)).filterMap Attempt.accepted? =
          (FallbackPass.attempts (first ++ [line, next])).filterMap Attempt.accepted? ++
            (FallbackPass.attempts second).filterMap Attempt.accepted? := by
  constructor
  · intro line separates
    have apart := Panel.attempts_append_of_forgets (separates.forgets settings) first second
    rw [LinePass.attempts, apart, List.filterMap_append]
    rfl
  · intro line next separates
    have apart := Panel.attempts_append_of_forgets separates.forgets first second
    rw [FallbackPass.attempts, apart, List.filterMap_append]
    rfl

/-- The first build ends with an open list, an open stack trace and an open block. -/
theorem records_of_segments_two_builds :
    let folder := "/proj".toList
    let first := ["FAIL src/a.test.ts".toList, "src/a.ts".toList,
      "1:1  error  Error: Unexpected any".toList, "✘ [ERROR] Could not resolve x".toList]
    let line := "Build failed.".toList
    let next := "Starting again.".toList
    let second := ["2:2  error  Unexpected var".toList, "  at it (src/a.spec.ts:5:9)".toList]
    LinePass.Separates folder line ∧ FallbackPass.Separates line next ∧
      (LinePass.attempts {} folder (first ++ [line] ++ second)).filterMap Attempt.accepted? =
        (LinePass.attempts {} folder (first ++ [line])).filterMap Attempt.accepted? ++
          (LinePass.attempts {} folder second).filterMap Attempt.accepted? ∧
      (FallbackPass.attempts (first ++ [line, next] ++ second)).filterMap Attempt.accepted? =
        (FallbackPass.attempts (first ++ [line, next])).filterMap Attempt.accepted? ++
          (FallbackPass.attempts second).filterMap Attempt.accepted? := by
  intro folder first line next second
  have noComponent : ¬ "error  in ".toList <:+: lowered line := by
    rw [← occursIn_iff]
    decide
  have noFolder : ¬ folder <:+: line := by
    rw [← occursIn_iff]
    decide
  have noMessage : ¬ "Error:".toList <:+: line := by
    rw [← occursIn_iff]
    decide
  have apart : LinePass.Separates folder line :=
    { spoken := by decide
      noEntry := by decide
      noFile := by decide
      noWrapped := by decide
      noComponent
      noJava := fun java => noFolder java.2.1
      noFrame := fun frame => noMessage frame.1 }
  have apartBelow : FallbackPass.Separates line next :=
    ⟨by decide, by decide, by decide, by decide⟩
  obtain ⟨lines, fallback⟩ := records_of_segments {} folder first second
  exact ⟨apart, apartBelow, lines line apart, fallback line next apartBelow⟩

end BuildLog
