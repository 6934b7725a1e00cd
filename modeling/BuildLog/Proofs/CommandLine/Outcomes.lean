import BuildLog.CommandLine.Run
import BuildLog.Proofs.CommandLine.ArgumentLists
import BuildLog.Proofs.Extraction.RecordLines
import BuildLog.Proofs.Files.Readings
import BuildLog.Proofs.Files.Resolving
import BuildLog.Proofs.Report.Summaries
import Mathlib.Data.List.DropRight

/-!
# How a run ends

A run is refused for its settings, or else for its folder, or else for its input; settings and input
come as bytes that must be a text in UTF-8.  A run that is not refused prints what it finds, or
gives the input back.  How the records are printed decides neither how a run ends nor what its
summary says, and a file with settings leaves nothing to the environment.
-/

set_option autoImplicit false

namespace BuildLog

open Text

namespace CommandLine

/-! ## Settings and input -/

section Sources
variable (world : World Id)

/-- The settings that a run takes, from the named file or else from the environment. -/
inductive Configures : Option Text → Settings → Prop where
  | environment : Configures none world.environment.settings
  | file {path document : Text} {settings : Settings}
      (read : Gives (world.files.read path).run document)
      (valid : Settings.ofTomlText? document = some settings) : Configures (some path) settings

inductive ConfigFails : Option Text → Refusal → Prop where
  | unreadable {path : Text} {error : ReadError} (fails : Fails (world.files.read path).run error) :
      ConfigFails (some path) (.unreadableConfig path error)
  | invalid {path document : Text} (read : Gives (world.files.read path).run document)
      (invalid : Settings.ofTomlText? document = none) :
      ConfigFails (some path) (.invalidConfig path)

def place : Option Text → Except ReadError Text
  | none => world.directory
  | some folder => .ok folder

def source : Option Text → Except ReadError ByteArray
  | none => world.standardInput.run
  | some path => (world.files.read path).run

end Sources

def inputRefusal : Option Text → ReadError → Refusal
  | none, error => .unreadableStandardInput error
  | some path, error => .unreadableInput path error

section Loading
variable {world : World Id} {config input : Option Text} {refusal : Refusal}

theorem run_loadSettings_of_configures {settings : Settings}
    (configures : Configures world config settings) :
    (loadSettings world config).run = .ok settings := by
  cases configures with
  | environment => rfl
  | file read valid =>
      rw [loadSettings, Id.run_bind, bind_decode_eq_ok_iff.2 read]
      simp only [valid, Id.run_pure]

theorem run_loadSettings_of_configFails (fails : ConfigFails world config refusal) :
    (loadSettings world config).run = .error refusal := by
  cases fails with
  | unreadable fails =>
      rw [loadSettings, Id.run_bind, bind_decode_eq_error_iff.2 fails]
      rfl
  | invalid read invalid =>
      rw [loadSettings, Id.run_bind, bind_decode_eq_ok_iff.2 read]
      simp only [invalid, Id.run_pure]

theorem exists_configFails (missing : ∀ settings, ¬ Configures world config settings) :
    ∃ refusal, ConfigFails world config refusal := by
  cases config with
  | none => exact absurd .environment (missing _)
  | some path =>
      cases decoded : (world.files.read path).run.bind decode with
      | error error => exact ⟨_, .unreadable (bind_decode_eq_error_iff.1 decoded)⟩
      | ok document =>
          have read := bind_decode_eq_ok_iff.1 decoded
          cases parsed : Settings.ofTomlText? document with
          | none => exact ⟨_, .invalid read parsed⟩
          | some settings => exact absurd (.file read parsed) (missing settings)

theorem folderOf_eq (named : Option Text) :
    folderOf world named = (place world named).mapError .unreadableDirectory := by
  cases named <;> rfl

theorem run_readInput : (readInput world input).run =
    ((source world input).bind decode).mapError (inputRefusal input) := by
  cases input <;> rfl

theorem run_readInput_of_gives {text : Text} (gives : Gives (source world input) text) :
    (readInput world input).run = .ok text := by
  rw [run_readInput, bind_decode_eq_ok_iff.2 gives]
  rfl

theorem run_readInput_of_fails {error : ReadError} (fails : Fails (source world input) error) :
    (readInput world input).run = .error (inputRefusal input error) := by
  rw [run_readInput, bind_decode_eq_error_iff.2 fails]
  rfl

end Loading

/-! ## Outcomes -/

def lastLine (t : Text) : Text :=
  t.dropLast.rtakeWhile (· ≠ '\n')

theorem lastLine_append {front line : Text} (ended : ∀ c ∈ front.getLast?, c = '\n')
    (plain : '\n' ∉ line) : lastLine (front ++ (line ++ ['\n'])) = line := by
  have inside : ∀ c ∈ line.reverse, decide (c ≠ '\n') = true := by
    intro c member
    exact decide_eq_true fun same => plain (same ▸ List.mem_reverse.1 member)
  have stop : front.reverse.takeWhile (· ≠ '\n') = [] := by
    cases reversed : front.reverse with
    | nil => rfl
    | cons c rest =>
        have last : c ∈ front.getLast? := by
          rw [← List.head?_reverse, reversed]
          rfl
        rw [List.takeWhile_cons_of_neg]
        simp [ended c last]
  rw [lastLine, ← List.append_assoc, List.dropLast_concat, List.rtakeWhile, List.reverse_append,
    List.takeWhile_append_of_pos inside, stop, List.append_nil, List.reverse_reverse]

section Outcomes
variable (world : World Id) (arguments : Arguments) (folder : Text)

/-- The records that are asked for, resolved or as they were printed. -/
def listed (extraction : Extraction) : List Record :=
  if arguments.resolve then
    (Resolution.resolveRecords world.files folder extraction.records).run
  else extraction.records

def listing (extraction : Extraction) : Text :=
  match arguments.report with
  | some .json => Report.renderJson (listed world arguments folder extraction) ++ ['\n']
  | _ => Report.renderText (listed world arguments folder extraction)

def extracted (settings : Settings) (text : Text) : Extraction :=
  Extraction.ofCapture settings ⟨text, [], folder⟩

structure Answers (text : Text) (extraction : Extraction) (outcome : Outcome) : Prop where
  status_eq_zero_iff : outcome.status = 0 ↔ extraction.diagnostics ≠ []
  found : extraction.diagnostics ≠ [] → outcome.complaint = [] ∧
    outcome.output = listing world arguments folder extraction ++
      if arguments.summary then (Summary.ofExtraction extraction).compact ++ ['\n'] else []
  summarized : extraction.diagnostics ≠ [] → arguments.summary = true →
    lastLine outcome.output = (Summary.ofExtraction extraction).compact
  nothing : extraction.diagnostics = [] →
    outcome.status = 1 ∧ outcome.output = [] ∧ outcome.complaint = text

/-- How a run ends.  When several things are missing it is refused for the first of settings, folder
and text. -/
structure Ends (outcome : Outcome) : Prop where
  unconfigured : (∀ settings, ¬ Configures world arguments.config settings) →
    ∃ refusal, ConfigFails world arguments.config refusal ∧ outcome = .refused refusal
  undirected : ∀ settings error, Configures world arguments.config settings →
    place world arguments.folder = .error error →
    outcome = .refused (.unreadableDirectory error)
  unsupplied : ∀ settings folder, Configures world arguments.config settings →
    place world arguments.folder = .ok folder →
    (∀ text, ¬ Gives (source world arguments.input) text) →
    ∃ error, Fails (source world arguments.input) error ∧
      outcome = .refused (inputRefusal arguments.input error)
  refused : (∀ settings, ¬ Configures world arguments.config settings) ∨
    (∀ folder, place world arguments.folder ≠ .ok folder) ∨
    (∀ text, ¬ Gives (source world arguments.input) text) →
    outcome.status = 2 ∧ outcome.output = []
  answers : ∀ settings folder text, Configures world arguments.config settings →
    place world arguments.folder = .ok folder → Gives (source world arguments.input) text →
    Answers world arguments folder text (extracted folder settings text) outcome

end Outcomes

/-! ## Printing -/

theorem eq_newline_of_mem_getLast?_renderText {records : List Record} {c : Char}
    (last : c ∈ (Report.renderText records).getLast?) : c = '\n' := by
  rcases records.eq_nil_or_concat' with rfl | ⟨front, record, rfl⟩
  · cases last
  · have ended : Report.renderText (front ++ [record]) =
        Report.renderText front ++ record.display ++ ['\n'] := by
      simp [Report.renderText]
    rw [ended, List.getLast?_concat] at last
    exact (Option.some.inj last).symm

section Printing
variable {world : World Id} {arguments : Arguments} {settings : Settings} {folder text : Text}

theorem eq_newline_of_mem_getLast?_listing {extraction : Extraction} {c : Char}
    (last : c ∈ (listing world arguments folder extraction).getLast?) : c = '\n' := by
  unfold listing at last
  split at last
  · rw [List.getLast?_concat] at last
    exact (Option.some.inj last).symm
  · exact eq_newline_of_mem_getLast?_renderText last

theorem run_report (extraction : Extraction) :
    (report world arguments folder extraction).run =
      listing world arguments folder extraction ++
        if arguments.summary then (Summary.ofExtraction extraction).compact ++ ['\n'] else [] := by
  unfold report listing listed
  cases arguments.resolve <;> rcases arguments.report with _ | _ | _ <;> rfl

theorem newline_not_mem_compact_extracted :
    '\n' ∉ (Summary.ofExtraction (extracted folder settings text)).compact := by
  apply Summary.newline_not_mem_compact
  intro record first
  obtain ⟨diagnostic, found, rfl⟩ := List.mem_map.1 (List.mem_of_head? first)
  exact (Extraction.unbroken_of_mem_diagnostics (by simp) found).uri

end Printing

/-! ## Runs -/

section Runs
variable {world : World Id} {arguments other : Arguments}

theorem run_execute_of_configFails {refusal : Refusal}
    (fails : ConfigFails world arguments.config refusal) :
    (execute world arguments).run = .refused refusal := by
  rw [execute, Id.run_bind, run_loadSettings_of_configFails fails]
  rfl

variable {settings : Settings} {folder : Text}

theorem run_execute_of_undirected {error : ReadError}
    (configures : Configures world arguments.config settings)
    (missing : place world arguments.folder = .error error) :
    (execute world arguments).run = .refused (.unreadableDirectory error) := by
  rw [execute, Id.run_bind, run_loadSettings_of_configures configures, folderOf_eq, missing]
  rfl

theorem run_execute_of_fails {error : ReadError}
    (configures : Configures world arguments.config settings)
    (directs : place world arguments.folder = .ok folder)
    (fails : Fails (source world arguments.input) error) :
    (execute world arguments).run = .refused (inputRefusal arguments.input error) := by
  rw [execute, Id.run_bind, run_loadSettings_of_configures configures, folderOf_eq, directs]
  simp only [Except.mapError, Id.run_bind, run_readInput_of_fails fails, Id.run_pure]

theorem run_execute_of_gives {text : Text}
    (configures : Configures world arguments.config settings)
    (directs : place world arguments.folder = .ok folder)
    (gives : Gives (source world arguments.input) text) :
    (execute world arguments).run =
      let extraction := extracted folder settings text
      if extraction.diagnostics = [] then .nothing text
      else .found (listing world arguments folder extraction ++
        if arguments.summary then (Summary.ofExtraction extraction).compact ++ ['\n'] else []) := by
  rw [execute, Id.run_bind, run_loadSettings_of_configures configures, folderOf_eq, directs]
  simp only [Except.mapError, Id.run_bind, run_readInput_of_gives gives, List.isEmpty_iff,
    ← run_report, apply_ite Id.run, Id.run_pure]
  rfl

theorem answers_execute {text : Text} (configures : Configures world arguments.config settings)
    (directs : place world arguments.folder = .ok folder)
    (gives : Gives (source world arguments.input) text) :
    Answers world arguments folder text (extracted folder settings text)
      (execute world arguments).run := by
  rw [run_execute_of_gives configures directs gives]
  by_cases empty : (extracted folder settings text).diagnostics = []
  · rw [if_pos empty]
    exact ⟨iff_of_false Nat.one_ne_zero (not_not.2 empty), fun filled => absurd empty filled,
      fun filled => absurd empty filled, fun _ => ⟨rfl, rfl, rfl⟩⟩
  · rw [if_neg empty]
    refine ⟨iff_of_true rfl empty, fun _ => ⟨rfl, rfl⟩, fun _ asked => ?_,
      fun nothing => absurd nothing empty⟩
    rw [Outcome.output, if_pos asked]
    exact lastLine_append (fun _ => eq_newline_of_mem_getLast?_listing)
      newline_not_mem_compact_extracted

theorem ends_execute (world : World Id) (arguments : Arguments) :
    Ends world arguments (execute world arguments).run := by
  have unconfigured : (∀ settings, ¬ Configures world arguments.config settings) →
      ∃ refusal, ConfigFails world arguments.config refusal ∧
        (execute world arguments).run = .refused refusal := by
    intro missing
    obtain ⟨refusal, fails⟩ := exists_configFails missing
    exact ⟨refusal, fails, run_execute_of_configFails fails⟩
  have unsupplied : ∀ settings folder, Configures world arguments.config settings →
      place world arguments.folder = .ok folder →
      (∀ text, ¬ Gives (source world arguments.input) text) →
      ∃ error, Fails (source world arguments.input) error ∧
        (execute world arguments).run = .refused (inputRefusal arguments.input error) := by
    intro settings folder configures directs missing
    obtain ⟨error, fails⟩ := exists_fails missing
    exact ⟨error, fails, run_execute_of_fails configures directs fails⟩
  refine ⟨unconfigured, fun _ _ => run_execute_of_undirected, unsupplied, ?_,
    fun _ _ _ => answers_execute⟩
  -- the settings are looked at first, then the folder, then the text
  intro missing
  by_cases configured : ∃ settings, Configures world arguments.config settings
  · obtain ⟨settings, configures⟩ := configured
    have missing := missing.resolve_left fun unset => unset settings configures
    cases placed : place world arguments.folder with
    | error error =>
        rw [run_execute_of_undirected configures placed]
        exact ⟨rfl, rfl⟩
    | ok folder =>
        have noText := missing.resolve_left fun nowhere => nowhere folder placed
        obtain ⟨error, -, refused⟩ := unsupplied settings folder configures placed noText
        rw [refused]
        exact ⟨rfl, rfl⟩
  · obtain ⟨refusal, -, refused⟩ := unconfigured (not_exists.1 configured)
    rw [refused]
    exact ⟨rfl, rfl⟩

/-- Neither the form of the records nor resolving them changes how a run ends or what its summary
says. -/
theorem Ends.alike {outcome otherOutcome : Outcome} (ends : Ends world arguments outcome)
    (otherEnds : Ends world other otherOutcome) (input : other.input = arguments.input)
    (folders : other.folder = arguments.folder) (config : other.config = arguments.config) :
    otherOutcome.status = outcome.status ∧
      (arguments.summary = true → other.summary = true →
        lastLine otherOutcome.output = lastLine outcome.output) := by
  -- both runs read the same sources, so they are refused together or answer to the same text
  by_cases missing : (∀ settings, ¬ Configures world arguments.config settings) ∨
      (∀ folder, place world arguments.folder ≠ .ok folder) ∨
      ∀ text, ¬ Gives (source world arguments.input) text
  · obtain ⟨status, output⟩ := ends.refused missing
    rw [← config, ← folders, ← input] at missing
    obtain ⟨otherStatus, otherOutput⟩ := otherEnds.refused missing
    exact ⟨otherStatus.trans status.symm, fun _ _ => by rw [output, otherOutput]⟩
  · push Not at missing
    obtain ⟨⟨settings, configures⟩, ⟨folder, directs⟩, text, gives⟩ := missing
    have answers := ends.answers settings folder text configures directs gives
    rw [← config] at configures
    rw [← folders] at directs
    rw [← input] at gives
    have otherAnswers := otherEnds.answers settings folder text configures directs gives
    by_cases empty : (extracted folder settings text).diagnostics = []
    · obtain ⟨status, output, -⟩ := answers.nothing empty
      obtain ⟨otherStatus, otherOutput, -⟩ := otherAnswers.nothing empty
      exact ⟨otherStatus.trans status.symm, fun _ _ => by rw [output, otherOutput]⟩
    · have status := answers.status_eq_zero_iff.2 empty
      have otherStatus := otherAnswers.status_eq_zero_iff.2 empty
      refine ⟨otherStatus.trans status.symm, fun asked otherAsked => ?_⟩
      exact (otherAnswers.summarized empty otherAsked).trans (answers.summarized empty asked).symm

theorem run_of_asks {list : List Text} (asks : Asks list arguments) :
    run world list = execute world arguments := by
  rw [run, Arguments.read_eq_ok_iff.2 asks]

theorem execute_environment (environment : Environment) (given : arguments.config ≠ none) :
    execute { world with environment } arguments = execute world arguments := by
  have same : loadSettings { world with environment } arguments.config =
      loadSettings world arguments.config := by
    obtain ⟨path, named⟩ := Option.ne_none_iff_exists'.1 given
    rw [named]
    rfl
  unfold execute
  rw [same]
  rfl

end Runs

/-- How a run with valid arguments ends: it is refused for its settings, or else for its folder, or
else for its text, or it answers with what is found in the text under the settings.  Runs that
differ in how the records are printed end with the same status and the same summary, and a file with
settings makes the environment irrelevant. -/
theorem run_ends (world : World Id) {list : List Text} {arguments : Arguments}
    (asks : Asks list arguments) :
    Ends world arguments (run world list).run ∧
      (∀ {others : List Text} {other : Arguments}, Asks others other →
        other.input = arguments.input → other.folder = arguments.folder →
        other.config = arguments.config →
        (run world others).run.status = (run world list).run.status ∧
          (arguments.summary = true → other.summary = true →
            lastLine (run world others).run.output = lastLine (run world list).run.output)) ∧
      (arguments.config ≠ none → ∀ environment : Environment,
        (run { world with environment } list).run = (run world list).run) := by
  rw [run_of_asks asks]
  refine ⟨ends_execute world arguments, ?_, ?_⟩
  · intro others other otherAsks input folders config
    rw [run_of_asks otherAsks]
    exact (ends_execute world arguments).alike (ends_execute world other) input folders config
  · intro given environment
    rw [run_of_asks asks, execute_environment environment given]

/-- The environment would make the text a Swift build log, and the named file keeps it from that.
Its one record is printed in two ways. -/
theorem run_ends_with_config_file :
    let document := "[extractor]\nxcode_context_skip = 3\n".toList
    let text := "src/a.ts(5,3): error TS2304: Cannot find name 'x'.\n".toList
    let tree := FileTree.ofFiles
      [("c.toml".toList, encode document), ("app/src/a.ts".toList, .empty)]
    let world : World Id :=
      ⟨tree.system, { xcodeSentinel := some "error".toList }, .ok "/work".toList, .ok (encode text)⟩
    let list := ["--config=c.toml".toList, "--format".toList, "json".toList, "--resolve".toList,
      "--folder".toList, "app".toList, "--summary".toList]
    let others := ["--summary".toList, "--folder=app".toList, "--config".toList, "c.toml".toList]
    let summary := "[1 error] line_scan | vite_colon:1 | 1 file | first=src/a.ts:5:3".toList
    (run world list).run.status = 0 ∧
      lastLine (run world list).run.output = summary ∧
      lastLine (run world others).run.output = summary ∧
      (run { world with environment := {} } list).run = (run world list).run := by
  intro document text tree world list others summary
  let arguments : Arguments :=
    ⟨none, some "app".toList, some .json, some "c.toml".toList, true, true⟩
  let other : Arguments := ⟨none, some "app".toList, none, some "c.toml".toList, false, true⟩
  have asks : Asks list arguments := Arguments.read_eq_ok_iff.1 rfl
  have otherAsks : Asks others other := Arguments.read_eq_ok_iff.1 rfl
  have read : Gives (world.files.read "c.toml".toList).run document := rfl
  have configures : Configures world arguments.config { xcodeContextSkip := 3 } :=
    .file read (by decide +kernel)
  have gives : Gives (source world arguments.input) text := rfl
  let extraction : Extraction := ⟨some .lineScan,
    [⟨.viteColon, "src/a.ts".toList, 4, 2, "Cannot find name 'x'.".toList⟩]⟩
  have found : extracted "app".toList { xcodeContextSkip := 3 } text = extraction := by
    decide +kernel
  have ranked : (Summary.ofExtraction extraction).ranking = [(.viteColon, 1)] :=
    List.mergeSort_singleton _
  have compact : (Summary.ofExtraction extraction).compact = summary := by
    rw [Summary.compact, Summary.formatCounts, ranked]
    decide +kernel
  obtain ⟨ends, alike, alone⟩ := run_ends world asks
  have answers := ends.answers _ _ _ configures rfl gives
  rw [found] at answers
  have filled : extraction.diagnostics ≠ [] := List.cons_ne_nil _ _
  have last := (answers.summarized filled rfl).trans compact
  have same := (alike otherAsks rfl rfl rfl).2 rfl rfl
  exact ⟨answers.status_eq_zero_iff.2 filled, last, same.trans last,
    alone (Option.some_ne_none _) {}⟩

end CommandLine

end BuildLog
