import BuildLog.Proofs.Extraction.Passes
import BuildLog.Proofs.Pass.LintLists

/-!
# What the project folder decides

Two layouts look at the project folder.  The header of a Java error must name it, the error message
of a test must not, so no line opens both, and at no time are both pending.  All other layouts read
a log alike in every folder, and whether the run comes to the line scan is decided without it.
-/

set_option autoImplicit false

namespace BuildLog

open Text

/-- Whether a layout looks at the project folder. -/
def Format.readsFolder : Format → Bool
  | .java | .jasmine => true
  | _ => false

/-! ## The line pass -/

namespace LinePass

def javaWatcher (folder : Text) : Watcher :=
  .paired (Java.header? folder) Java.read

def frameWatcher (settings : Settings) (folder : Text) : Watcher :=
  .paired (TestRunner.errorMessage? settings folder) TestRunner.readFrame

variable (settings : Settings) (folder : Text)

theorem javaWatcher_mem_zip :
    (.java, javaWatcher folder) ∈ formats.zip (watchers settings folder) := by
  simp [formats, watchers, javaWatcher]

theorem frameWatcher_mem_zip :
    (.jasmine, frameWatcher settings folder) ∈ formats.zip (watchers settings folder) := by
  simp [formats, watchers, frameWatcher]

/-! ### Headers of the two layouts -/

theorem errorMessage?_of_header? {line header : Text}
    (opened : Java.header? folder line = some header) :
    TestRunner.errorMessage? settings folder line = none := by
  cases named : Folder.names folder line with
  | true => simp [TestRunner.errorMessage?, named]
  | false => simp [Java.header?, named] at opened

theorem header?_nil (line : Text) : Java.header? [] line = none := by
  simp [Java.header?]

theorem not_both_pending (lines : List Text) (header message : Text) :
    ¬ (Watch.mk (javaWatcher folder) (some header) ∈
          (Panel.ofWatchers (watchers settings folder)).after lines ∧
        Watch.mk (frameWatcher settings folder) (some message) ∈
          (Panel.ofWatchers (watchers settings folder)).after lines) := by
  intro pending
  obtain ⟨java, frame⟩ := pending
  have all := List.take_length (l := lines)
  have opened : (javaWatcher folder).after (javaWatcher folder).start (lines.take lines.length) =
      (above? lines 1 lines.length).bind (Java.header? folder) :=
    Watcher.after_paired Java.read (Nat.le_refl lines.length)
  have spoken : (frameWatcher settings folder).after (frameWatcher settings folder).start
      (lines.take lines.length) =
      (above? lines 1 lines.length).bind (TestRunner.errorMessage? settings folder) :=
    Watcher.after_paired TestRunner.readFrame (Nat.le_refl lines.length)
  rw [all] at opened spoken
  have header := (Panel.memory_of_mem_after java).trans opened
  have message := (Panel.memory_of_mem_after frame).trans spoken
  cases above : above? lines 1 lines.length with
  | none => simp [above] at header
  | some line =>
      simp only [above, Option.bind_some] at header message
      have closed := errorMessage?_of_header? settings folder header.symm
      simp [closed] at message

theorem header_of_answer {format : Format} {opens : Text → Option Text}
    {reads : Text → Text → Attempt} {lines : List Text} {i : Nat} {line : Text} {attempt : Attempt}
    (layout : (format, .paired opens reads) ∈ formats.zip (watchers settings folder))
    (here : lines[i]? = some line)
    (answered : attempt ∈ (watchers settings folder).flatMap fun watcher =>
      watcher.answerAt lines i)
    (same : attempt.format = format) :
    ∃ above header, above? lines 1 i = some above ∧ opens above = some header := by
  have distinct : formats.Nodup := by decide
  have kept := List.mem_filter (p := fun attempt => attempt.format = format).2
    ⟨answered, decide_eq_true same⟩
  rw [Panel.filter_answers_of_mem (tagged_watchers settings folder) distinct layout,
    Watcher.answerAt_paired here, Option.mem_toList] at kept
  obtain ⟨header, opened, -⟩ := Option.map_eq_some_iff.1 kept
  obtain ⟨above, found, named⟩ := Option.bind_eq_some_iff.1 opened
  exact ⟨above, header, found, named⟩

theorem not_both_answer (lines : List Text) (line : Text) {attempt other : Attempt}
    (answered : attempt ∈ ((Panel.ofWatchers (watchers settings folder)).after lines).flatMap
      (·.answer line))
    (otherAnswered : other ∈ ((Panel.ofWatchers (watchers settings folder)).after lines).flatMap
      (·.answer line))
    (java : attempt.format = .java) : other.format ≠ .jasmine := by
  intro frame
  have here : (lines ++ [line])[lines.length]? = some line := by simp
  rw [Panel.flatMap_answer_after] at answered otherAnswered
  obtain ⟨above, header, found, named⟩ := header_of_answer settings folder
    (javaWatcher_mem_zip settings folder) here answered java
  obtain ⟨same, message, sameFound, spoken⟩ := header_of_answer settings folder
    (frameWatcher_mem_zip settings folder) here otherAnswered frame
  cases found.symm.trans sameFound
  rw [errorMessage?_of_header? settings folder named] at spoken
  cases spoken

theorem format_ne_java_of_no_folder {lines : List Text} {attempt : Attempt}
    (member : attempt ∈ attempts settings [] lines) : attempt.format ≠ .java := by
  intro java
  rw [attempts, Panel.attempts_ofWatchers] at member
  obtain ⟨i, inside, answered⟩ := List.mem_flatMap.1 member
  obtain ⟨above, header, -, named⟩ := header_of_answer settings []
    (javaWatcher_mem_zip settings []) (List.getElem?_eq_getElem (List.mem_range.1 inside))
    answered java
  rw [header?_nil] at named
  cases named

/-! ### All other layouts -/

theorem readsFolder_of_javaAt {lines : List Text} {i : Nat} {attempt : Attempt}
    (found : javaAt folder lines i = some attempt) : attempt.format.readsFolder = true := by
  simp only [javaAt, Option.bind_eq_bind, Option.bind_eq_some_iff] at found
  obtain ⟨line, -, header, -, kept⟩ := found
  split at kept
  · cases kept
    rw [(Java.owns_read header line).format_eq]
    rfl
  · cases kept

theorem readsFolder_of_frameAt {lines : List Text} {i : Nat} {attempt : Attempt}
    (found : frameAt settings folder lines i = some attempt) :
    attempt.format.readsFolder = true := by
  simp only [frameAt, Option.bind_eq_bind, Option.bind_eq_some_iff] at found
  obtain ⟨line, -, header, -, kept⟩ := found
  split at kept
  · cases kept
  · obtain ⟨sides, -, same⟩ := Option.bind_eq_some_iff.1 kept
    cases same
    rw [(TestRunner.owns_readFrame _ line).format_eq]
    rfl

theorem filter_attemptsAt (first second : Text) (lines : List Text) (i : Nat) :
    (attemptsAt settings first lines i).filter (fun attempt => !attempt.format.readsFolder) =
      (attemptsAt settings second lines i).filter fun attempt => !attempt.format.readsFolder := by
  have java : ∀ folder, (javaAt folder lines i).toList.filter
      (fun attempt => !attempt.format.readsFolder) = [] := fun folder =>
    Attempt.filter_toList_eq_nil (!·.readsFolder) fun _ found => by
      rw [readsFolder_of_javaAt folder found, Bool.not_true]
  have frame : ∀ folder, (frameAt settings folder lines i).toList.filter
      (fun attempt => !attempt.format.readsFolder) = [] := fun folder =>
    Attempt.filter_toList_eq_nil (!·.readsFolder) fun _ found => by
      rw [readsFolder_of_frameAt settings folder found, Bool.not_true]
  simp only [attemptsAt, List.flatMap_cons, List.flatMap_nil, List.filter_append, java, frame,
    List.nil_append]

theorem filter_records (first second : Text) (lines : List Text) :
    ((attempts settings first lines).filterMap Attempt.accepted?).filter
        (fun diagnostic => !diagnostic.format.readsFolder) =
      ((attempts settings second lines).filterMap Attempt.accepted?).filter
        fun diagnostic => !diagnostic.format.readsFolder := by
  have here := filter_attemptsAt settings first second lines
  simp only [Attempt.filter_accepted (fun format => !format.readsFolder),
    attempts_eq_flatMap_attemptsAt, List.filter_flatMap, here]

end LinePass

/-! ## Extractions -/

namespace Extraction

def foundIn (phase : Phase) (extraction : Extraction) : List Diagnostic :=
  if extraction.phase = some phase then extraction.diagnostics else []

theorem runPasses_from_lines (settings : Settings) (capture : Capture) :
    let extraction := (runPasses capture
      [(.lineScan, Findings.ofLines settings), (.fallback, Findings.ofFallback)]).1
    (∀ phase ∈ [Phase.xcode, .wholeBlob], extraction.phase ≠ some phase) ∧
      extraction.foundIn .lineScan = (Findings.ofLines settings capture).diagnostics := by
  by_cases scanned : (Findings.ofLines settings capture).diagnostics = []
  · rw [runPasses_of_nothing _ scanned, scanned]
    by_cases fallback : (Findings.ofFallback capture).diagnostics = []
    · rw [runPasses_of_nothing _ fallback]
      simp [runPasses, foundIn]
    · rw [runPasses_of_something _ fallback]
      simp [foundIn]
  · rw [runPasses_of_something _ scanned]
    simp [foundIn]

/-- A run ends before the line scan with the same extraction in every folder, or it comes to the line
scan in every folder. -/
theorem ofCapture_eq_or_from_lines (settings : Settings) (text : Text) (logs : List Text) :
    (∀ first second, ofCapture settings { text, logs, folder := first } =
        ofCapture settings { text, logs, folder := second }) ∨
      ∀ folder, ofCapture settings { text, logs, folder } =
        (runPasses { text, logs, folder }
          [(.lineScan, Findings.ofLines settings), (.fallback, Findings.ofFallback)]).1 := by
  -- neither of the two passes in front of the line scan reads the folder
  cases kind : Capture.isSwiftLog settings { text, logs } with
  | true =>
      left
      have found : ∀ folder, ofCapture settings { text, logs, folder } =
          ⟨some .xcode, (Findings.ofSwift settings { text, logs }).diagnostics⟩ := fun _ =>
        ofCapture_of_swiftLog kind
      intro first second
      rw [found, found]
  | false =>
      have run : ∀ folder, ofCapture settings { text, logs, folder } =
          (runPasses { text, logs, folder } (passes settings)).1 := fun _ =>
        ofCapture_of_not_swiftLog kind
      by_cases block : (Findings.ofBlock { text, logs }).diagnostics = []
      · right
        intro folder
        rw [run, passes]
        exact runPasses_of_nothing _ block
      · left
        have found : ∀ folder, ofCapture settings { text, logs, folder } =
            ⟨some .wholeBlob, (Findings.ofBlock { text, logs }).diagnostics⟩ := by
          intro folder
          rw [run, passes]
          exact runPasses_of_something _ block
        intro first second
        rw [found, found]

theorem ofCapture_of_early_phase (settings : Settings) (text : Text) (logs : List Text)
    (first second : Text) {phase : Phase} (early : phase ∈ [Phase.xcode, .wholeBlob])
    (ended : (ofCapture settings { text, logs, folder := first }).phase = some phase) :
    ofCapture settings { text, logs, folder := second } =
      ofCapture settings { text, logs, folder := first } := by
  rcases ofCapture_eq_or_from_lines settings text logs with same | scanned
  · exact same second first
  · rw [scanned] at ended
    exact absurd ended ((runPasses_from_lines settings _).1 phase early)

theorem filter_foundIn_lineScan (settings : Settings) (text : Text) (logs : List Text)
    (first second : Text) :
    ((ofCapture settings { text, logs, folder := first }).foundIn .lineScan).filter
        (fun diagnostic => !diagnostic.format.readsFolder) =
      ((ofCapture settings { text, logs, folder := second }).foundIn .lineScan).filter
        fun diagnostic => !diagnostic.format.readsFolder := by
  rcases ofCapture_eq_or_from_lines settings text logs with same | scanned
  · rw [same first second]
  · rw [scanned, scanned, (runPasses_from_lines settings _).2, (runPasses_from_lines settings _).2]
    exact LinePass.filter_records settings first second _

/-- The folder decides the Java errors and the frames of tests, and nothing else: not whether the
run ends before the line scan, and not what the other layouts of the line scan find.  Of the two
layouts at most one is pending, at most one answers a line, and the first needs a folder. -/
theorem folder_decides_two_layouts (settings : Settings) :
    (∀ (text : Text) (logs : List Text) (first second : Text),
      let one := ofCapture settings { text, logs, folder := first }
      let other := ofCapture settings { text, logs, folder := second }
      (∀ phase ∈ [Phase.xcode, .wholeBlob],
        (one.phase = some phase ↔ other.phase = some phase) ∧
          (one.phase = some phase → one = other)) ∧
      (one.foundIn .lineScan).filter (fun diagnostic => !diagnostic.format.readsFolder) =
        (other.foundIn .lineScan).filter fun diagnostic => !diagnostic.format.readsFolder) ∧
    ∀ (folder : Text) (lines : List Text),
      let panel := (Panel.ofWatchers (LinePass.watchers settings folder)).after lines
      (∀ header message,
        ¬ (Watch.mk (LinePass.javaWatcher folder) (some header) ∈ panel ∧
          Watch.mk (LinePass.frameWatcher settings folder) (some message) ∈ panel)) ∧
      (∀ line, ∀ attempt ∈ panel.flatMap (·.answer line),
        ∀ other ∈ panel.flatMap (·.answer line),
          attempt.format = .java → other.format ≠ .jasmine) ∧
      (folder = [] →
        ∀ attempt ∈ LinePass.attempts settings folder lines, attempt.format ≠ .java) := by
  constructor
  · intro text logs first second
    constructor
    · intro phase early
      constructor
      · constructor
        · intro ended
          rw [ofCapture_of_early_phase settings text logs first second early ended, ended]
        · intro ended
          rw [ofCapture_of_early_phase settings text logs second first early ended, ended]
      · intro ended
        exact (ofCapture_of_early_phase settings text logs first second early ended).symm
    · exact filter_foundIn_lineScan settings text logs first second
  · intro folder lines
    refine ⟨LinePass.not_both_pending settings folder lines, ?_, ?_⟩
    · intro line attempt answered other otherAnswered java
      exact LinePass.not_both_answer settings folder lines line answered otherAnswered java
    · intro none attempt member
      rw [none] at member
      exact LinePass.format_ne_java_of_no_folder settings member

/-- A log with one line for each of the two layouts, read with its project folder and without. -/
theorem folder_decides_two_layouts_java_project :
    let logs := ["/app/Main.java:3: error: ';' expected".toList, "  int x".toList,
      "Error: boom".toList, "  at it (a.spec.ts:5:9)".toList,
      "SyntaxError: b.js: Unexpected token (2:7)".toList]
    let one := ofCapture {} { logs, folder := "/app".toList }
    let other := ofCapture {} { logs }
    one.diagnostics.map Diagnostic.format = [.java, .jasmine, .syntaxError] ∧
      other.diagnostics.map Diagnostic.format = [.jasmine, .syntaxError] ∧
      (one.foundIn .lineScan).filter (fun diagnostic => !diagnostic.format.readsFolder) =
        (other.foundIn .lineScan).filter (fun diagnostic => !diagnostic.format.readsFolder) ∧
      ∀ attempt ∈ LinePass.attempts {} [] logs, attempt.format ≠ .java := by
  intro logs one other
  obtain ⟨extractions, panels⟩ := folder_decides_two_layouts {}
  refine ⟨?_, ?_, (extractions [] logs "/app".toList []).2, (panels [] logs).2.2 rfl⟩
  · decide +kernel
  · decide +kernel

end Extraction

end BuildLog
