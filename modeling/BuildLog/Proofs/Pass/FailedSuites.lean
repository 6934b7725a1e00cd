import BuildLog.Proofs.Pass.Alone
import BuildLog.Proofs.Pass.FallbackLayouts
import BuildLog.Proofs.Pass.Formats
import BuildLog.Proofs.Pass.Segments
import BuildLog.Proofs.Recognizer.SuiteTimings

/-!
# Failed suites

A runner of suites prints a line for a failed suite, perhaps with the time that the suite took, and
below it, after any blank lines, the title of a test.  The path waits over the blank lines, and the
title ends the wait.  So a log of any number of such blocks makes one record per block, whatever the
paths and titles look like.
-/

set_option autoImplicit false

namespace BuildLog

open Text

/-- A failed suite in print.  A path that is printed without a duration does not end in one. -/
structure FailedSuite where
  path : Text
  duration : Option TestRunner.Duration
  blanks : List Text
  title : Text
  named : Filled path
  untimed : duration = none → TestRunner.Untimed path
  blank : ∀ line ∈ blanks, isBlankLine line = true
  titled : Filled title

namespace FailedSuite

section Print
variable (suite : FailedSuite)

def timed : Text :=
  suite.path ++ (suite.duration.map TestRunner.Duration.render).getD []

def header : Text :=
  "FAIL ".toList ++ suite.timed

def titleLine : Text :=
  "  ● ".toList ++ suite.title

def lines : List Text :=
  suite.header :: suite.blanks ++ [suite.titleLine]

def diagnostic : Diagnostic :=
  ⟨.jest, suite.path, 0, 0, suite.title⟩

end Print

/-! ## One suite -/

section Read
variable (suite : FailedSuite)

theorem filled_timed : Filled suite.timed := by
  rw [timed]
  cases suite.duration with
  | none =>
      rw [Option.map_none, Option.getD_none, List.append_nil]
      exact suite.named
  | some duration =>
      have solid : isBlank ')' = false := by decide
      have bracket : Filled [')'] := .of_forall (by simp) (List.forall_mem_singleton.2 solid)
      have whole : suite.path ++ duration.render =
          suite.path ++ (duration.lead ++ '(' :: (duration.whole.text ++
            (TestRunner.behindPoint duration.fraction ++ (duration.gap ++ duration.unit)))) ++
            [')'] := by
        simp [TestRunner.Duration.render, TestRunner.Duration.inside, TestRunner.Duration.ending]
      rw [Option.map_some, Option.getD_some, whole]
      exact suite.named.append bracket _

theorem suite?_header : TestRunner.suite? suite.header = some suite.path := by
  have behind : after? "FAIL ".toList suite.header = some suite.timed := after?_append _ _
  rw [TestRunner.suite?, behind, Option.map_some, suite.filled_timed.trimmed, timed]
  cases printed : suite.duration with
  | none =>
      rw [Option.map_none, Option.getD_none, List.append_nil,
        (suite.untimed printed).cutBefore_eq]
  | some duration =>
      rw [Option.map_some, Option.getD_some, TestRunner.cutBefore_render suite.named]

theorem suite?_titleLine : TestRunner.suite? suite.titleLine = none := by
  apply FallbackPass.suite?_eq_none
  rintro ⟨rest, same⟩
  exact absurd (List.cons.inj same).1 (by decide)

theorem isBlankLine_titleLine : isBlankLine suite.titleLine = false := by
  rw [titleLine, isBlankLine, List.all_append]
  rfl

theorem readTitle_titleLine : TestRunner.readTitle suite.path suite.titleLine =
    .ok suite.diagnostic := by
  have solid : isBlank '●' = false := by decide
  have bullet : Filled ['●'] := .of_forall (by simp) (List.forall_mem_singleton.2 solid)
  have marked : trim suite.titleLine = '●' :: ' ' :: suite.title := by
    have filled := bullet.append suite.titled [' ']
    have blank : isBlankLine [' ', ' '] = true := by decide
    have trimmed := filled.trim_between blank (rfl : isBlankLine [] = true)
    rwa [List.append_nil] at trimmed
  have message : trim (' ' :: suite.title) = suite.title := by
    rw [trim_cons_of_isBlank (by decide), suite.titled.trimmed]
  have behind : after? ['●'] ('●' :: ' ' :: suite.title) = some (' ' :: suite.title) :=
    after?_append ['●'] (' ' :: suite.title)
  rw [TestRunner.readTitle, marked, behind, Option.getD_some, Diagnostic.ofZeroBased,
    Record.ofZeroBased, message, suite.named.trimmed, if_neg suite.named.nonempty,
    if_neg suite.titled.nonempty]
  rfl

theorem readBelowSuite_titleLine :
    FallbackPass.readBelowSuite suite.path suite.titleLine = some (.ok suite.diagnostic) := by
  rw [FallbackPass.readBelowSuite, suite.suite?_titleLine, suite.readTitle_titleLine]

theorem attempts_lines :
    (Panel.ofWatchers [FallbackPass.suiteWatcher]).attempts suite.lines =
      [.ok suite.diagnostic] := by
  obtain ⟨-, read⟩ := Panel.attempts_patient FallbackPass.readBelowSuite
    FallbackPass.suite?_of_isBlankLine suite.header suite.blank suite.isBlankLine_titleLine
  rw [suite.suite?_header, Option.bind_some, suite.readBelowSuite_titleLine] at read
  exact read

theorem forgets_titleLine :
    ∀ watcher ∈ [FallbackPass.suiteWatcher], watcher.Forgets [suite.titleLine] := by
  rw [List.forall_mem_singleton]
  exact Watcher.forgets_patient _ suite.isBlankLine_titleLine suite.suite?_titleLine

end Read

/-! ## Any number of suites -/

theorem attempts_flatMap_lines (suites : List FailedSuite) :
    (Panel.ofWatchers [FallbackPass.suiteWatcher]).attempts (suites.flatMap lines) =
      suites.map fun suite => .ok suite.diagnostic := by
  induction suites with
  | nil => rfl
  | cons suite suites ih =>
      have apart := Panel.attempts_append_of_forgets suite.forgets_titleLine
        (suite.header :: suite.blanks) (suites.flatMap lines)
      have first := suite.attempts_lines
      rw [lines] at first
      rw [List.flatMap_cons, lines, apart, first, ih]
      rfl

end FailedSuite

/-! ## The records of the pass -/

namespace FallbackPass

theorem recordsOf_jest (lines : List Text) :
    Attempt.recordsOf .jest (attempts lines) =
      ((Panel.ofWatchers [suiteWatcher]).attempts lines).filterMap Attempt.accepted? := by
  have own : (attempts lines).filter (fun attempt => attempt.format = .jest) =
      (Panel.ofWatchers [suiteWatcher]).attempts lines := by
    rw [attempts, Panel.attempts_ofWatchers, Panel.attempts_ofWatchers, List.filter_flatMap]
    apply List.flatMap_congr
    intro i _
    have noBlock : Format.jest ∉ [Format.viteBlock] := by decide
    have noStatement : Format.jest ∉ [Format.genericError, .typescriptBatch] := by decide
    have nested := Panel.filter_answerAt_of_reads reads_nested noBlock lines i
    have statement := Panel.filter_answerAt_of_reads reads_statement noStatement lines i
    have suite : (suiteWatcher.answerAt lines i).filter (fun attempt => attempt.format = .jest) =
        suiteWatcher.answerAt lines i :=
      Panel.filter_answerAt_of_tagged (Panel.tagged_of_reads reads_suite) lines i
    simp only [watchers, List.flatMap_cons, List.flatMap_nil, List.filter_append, nested, statement,
      List.nil_append, List.append_nil]
    exact suite
  rw [Attempt.recordsOf, LinePass.filter_format_accepted, own]

/-- Every block makes the record of its own path and its own title, in the order of the blocks.
Only the duration at the very end of a header is cut away, so a path keeps the parentheses and the
durations that it has itself. -/
theorem records_of_failed_suites (suites : List FailedSuite) :
    Attempt.recordsOf .jest (attempts (suites.flatMap FailedSuite.lines)) =
      suites.map fun suite => ⟨.jest, suite.path, 0, 0, suite.title⟩ := by
  rw [recordsOf_jest, FailedSuite.attempts_flatMap_lines, List.filterMap_map]
  exact List.filterMap_eq_map_iff_forall_eq_some.2 fun _ _ => rfl

/-- A path keeps its own duration when another one is printed behind it, and a title may look like
a header. -/
theorem records_of_failed_suites_durations :
    Attempt.recordsOf .jest (attempts ["FAIL src/slow (2 s) (81.5 ms)".toList, " ".toList,
        "  ● FAIL is a title".toList, "FAIL src/(b) 1 s)".toList, "  ● ● (3 s)".toList]) =
      [⟨.jest, "src/slow (2 s)".toList, 0, 0, "FAIL is a title".toList⟩,
        ⟨.jest, "src/(b) 1 s)".toList, 0, 0, "● (3 s)".toList⟩] := by
  let duration : TestRunner.Duration :=
    { lead := " ".toList, whole := ⟨"81".toList, by decide, by decide⟩
      fraction := some ⟨"5".toList, by decide, by decide⟩, gap := " ".toList, unit := "ms".toList
      blankLead := by decide, blankGap := by decide, known := .inr rfl }
  let timed : FailedSuite :=
    { path := "src/slow (2 s)".toList, duration := some duration, blanks := [" ".toList]
      title := "FAIL is a title".toList, named := ⟨by decide, by decide⟩, untimed := nofun
      blank := List.forall_mem_singleton.2 (by decide), titled := ⟨by decide, by decide⟩ }
  have untimed : TestRunner.Untimed "src/(b) 1 s)".toList := TestRunner.untimed_iff.2 (by decide)
  let plain : FailedSuite :=
    { path := "src/(b) 1 s)".toList, duration := none, blanks := [], title := "● (3 s)".toList
      named := ⟨by decide, by decide⟩, untimed := fun _ => untimed
      blank := List.forall_mem_nil _, titled := ⟨by decide, by decide⟩ }
  exact records_of_failed_suites [timed, plain]

end FallbackPass

end BuildLog
