import BuildLog.Pass.Layouts
import BuildLog.Proofs.Pass.Recall
import BuildLog.Proofs.Recognizer.LintEntry

/-!
# The line pass, layout by layout

What the line pass tries at a line can be said from the lines of the log alone, without what its
watchers remember.  Each layout looks at the line, and some also at one line above it: the very next
one, the nearest that is not blank, or the nearest file name with nothing but entries below it.
-/

set_option autoImplicit false

namespace BuildLog.LinePass

open Text

/-! ## The layouts at a line -/

/-- An entry of a lint report.  Its file is the nearest line above it that ends like a file name, as
long as every line between the two is an entry itself. -/
def entryAt (format : Format) (endings : List Text) (lines : List Text) (i : Nat) :
    Option Attempt := do
  let line ← lines[i]?
  let j ← nearestAbove? (fun line => endings.any fun ending => endsWith ending (trim line)) lines i
  let file ← lines[j]?
  if ((lines.take i).drop (j + 1)).all Lint.isEntry then
    some (Lint.readEntry format (trim file) (trim line))
  else none

/-- A message below a line that starts with `TypeScript error in `. -/
def wrappedAt (lines : List Text) (i : Nat) : Option Attempt := do
  let line ← lines[i]?
  let header ← above? lines 1 i
  let place ← after? "TypeScript error in ".toList (trim header)
  some (TypeScript.readWrapped place line)

def parenthesizedAt (lines : List Text) (i : Nat) : Option Attempt := do
  let line ← lines[i]?
  let (place, message) ← cut? ": error ".toList line
  some (TypeScript.readParenthesized place message)

/-- A line that is not blank, below a line with `error  in ` in any ASCII case.  Blank lines may
stand between the two. -/
def componentAt (lines : List Text) (i : Nat) : Option Attempt := do
  let line ← lines[i]?
  if isBlankLine line then none
  else
    let j ← nearestAbove? (fun line => !isBlankLine line) lines i
    let header ← lines[j]?
    let (_, place) ← cutLowered? "error  in ".toList header
    some (TypeScript.readComponent place line)

def syntaxErrorAt (lines : List Text) (i : Nat) : Option Attempt := do
  let line ← lines[i]?
  let rest ← after? "SyntaxError:".toList (trim line)
  some (Script.readSyntaxError rest)

/-- A line below one that names the project folder and contains `error:`. -/
def javaAt (folder : Text) (lines : List Text) (i : Nat) : Option Attempt := do
  let line ← lines[i]?
  let header ← above? lines 1 i
  if folder ≠ [] ∧ occursIn folder header ∧ occursIn "error:".toList header then
    some (Java.read header line)
  else none

/-- A line below one that contains `Error:` and does not name the project folder. -/
def frameAt (settings : Settings) (folder : Text) (lines : List Text) (i : Nat) :
    Option Attempt := do
  let line ← lines[i]?
  let header ← above? lines 1 i
  if folder ≠ [] ∧ occursIn folder header then none
  else
    let (_, message) ← cut? "Error:".toList header
    some (TestRunner.readFrame (TestRunner.shorten settings (CodeLabel.strip message)) line)

def attemptsAt (settings : Settings) (folder : Text) (lines : List Text) (i : Nat) :
    List Attempt :=
  [ entryAt .eslint [".ts".toList, ".tsx".toList] lines i,
    wrappedAt lines i,
    parenthesizedAt lines i,
    componentAt lines i,
    syntaxErrorAt lines i,
    javaAt folder lines i,
    frameAt settings folder lines i,
    entryAt .vue [".vue".toList] lines i ].flatMap Option.toList

/-! ## The watchers of the pass -/

section Watchers
variable {lines : List Text} {i : Nat} {line : Text} (here : lines[i]? = some line)

theorem isSome_fileNamed? (endings : List Text) (line : Text) :
    (fileNamed? endings line).isSome = endings.any fun ending => endsWith ending (trim line) := by
  rw [fileNamed?]
  split
  · next named => simp [named]
  · next unnamed => simpa using unnamed

theorem trim_ne_nil_of_fileNamed? {endings : List Text} (spelled : [] ∉ endings)
    {line file : Text} (named : fileNamed? endings line = some file) : trim file ≠ [] := by
  unfold fileNamed? at named
  split at named
  · next ends =>
      cases named
      obtain ⟨ending, member, suffix⟩ := List.any_eq_true.1 ends
      have nonempty : trim line ≠ [] := by
        intro blank
        rw [endsWith, List.isSuffixOf_iff_suffix, blank] at suffix
        exact spelled (List.suffix_nil.1 suffix ▸ member)
      exact trim_ne_nil_of_suffix (List.suffix_refl _) nonempty
  · cases named

theorem componentHeader?_of_isBlankLine (line : Text) (blank : isBlankLine line = true) :
    TypeScript.componentHeader? line = none := by
  have blankLowered : ∀ c ∈ lowered line, isBlank c = true := by
    intro c member
    obtain ⟨d, inside, rfl⟩ := List.mem_map.1 member
    have blankHere := isBlankLine_iff.1 blank d inside
    rwa [toLower_of_isBlank blankHere]
  cases found : TypeScript.componentHeader? line with
  | none => rfl
  | some place =>
      obtain ⟨sides, cutFound, -⟩ := Option.map_eq_some_iff.1 found
      obtain ⟨parts, marked, -⟩ := Option.map_eq_some_iff.1 cutFound
      have split : lowered line = parts.1 ++ "error  in ".toList ++ parts.2 := eq_of_cut? marked
      have letter : 'e' ∈ lowered line := by
        rw [split]
        simp
      exact absurd (blankLowered 'e' letter) (by decide)

include here

theorem answerAt_lintWatcher (format : Format) (endings : List Text) (spelled : [] ∉ endings) :
    (lintWatcher format endings).answerAt lines i = (entryAt format endings lines i).toList := by
  -- a list keeps its header by what is read against that file, the layout by the line alone
  have alike : ∀ file, (∃ line, fileNamed? endings line = some file) → ∀ line,
      (Lint.readEntry format file (trim line)).accepted?.isSome = Lint.isEntry line := by
    rintro file ⟨header, named⟩ line
    exact Lint.isSome_accepted?_readEntry format (trim_ne_nil_of_fileNamed? spelled named) line
  rw [lintWatcher, Watcher.answerAt_listing here alike, Watcher.listHeader?]
  simp only [isSome_fileNamed?, entryAt, here, Option.bind_eq_bind, Option.bind_some]
  cases found : nearestAbove? (fun line => endings.any fun ending => endsWith ending (trim line))
      lines i with
  | none => rfl
  | some j =>
      obtain ⟨-, ends, -⟩ := nearestAbove?_eq_some_iff.1 found
      cases header : lines[j]? with
      | none =>
          rw [header] at ends
          cases ends
      | some file =>
          rw [header, Option.any_some] at ends
          have named : fileNamed? endings file = some (trim file) := by
            rw [fileNamed?, if_pos ends]
          simp only [Option.bind_some, header, named]
          split
          · rfl
          · rfl

theorem answerAt_wrapped :
    (Watcher.paired TypeScript.wrappedHeader? TypeScript.readWrapped).answerAt lines i =
      (wrappedAt lines i).toList := by
  rw [Watcher.answerAt_paired here, wrappedAt, here]
  cases above : above? lines 1 i with
  | none => rfl
  | some header =>
      simp only [Option.bind_eq_bind, Option.bind_some, TypeScript.wrappedHeader?]
      cases after? "TypeScript error in ".toList (trim header) with
      | none => rfl
      | some place => rfl

theorem answerAt_parenthesized :
    (Watcher.single TypeScript.parenthesized?).answerAt lines i =
      (parenthesizedAt lines i).toList := by
  rw [Watcher.answerAt_single here, parenthesizedAt, here]
  simp only [Option.bind_eq_bind, Option.bind_some, TypeScript.parenthesized?]
  cases cut? ": error ".toList line with
  | none => rfl
  | some sides => rfl

theorem answerAt_component :
    (Watcher.patient TypeScript.componentHeader? fun place line =>
      some (TypeScript.readComponent place line)).answerAt lines i =
      (componentAt lines i).toList := by
  rw [Watcher.answerAt_patient here componentHeader?_of_isBlankLine, componentAt, here]
  simp only [Option.bind_eq_bind, Option.bind_some]
  by_cases blank : isBlankLine line = true
  · rw [if_pos blank, if_pos blank]
    rfl
  · rw [if_neg blank, if_neg blank]
    cases found : nearestAbove? (fun line => !isBlankLine line) lines i with
    | none => rfl
    | some j =>
        rw [Option.bind_some, Option.bind_some]
        cases lines[j]? with
        | none => rfl
        | some header =>
            simp only [Option.bind_some, TypeScript.componentHeader?]
            cases cutLowered? "error  in ".toList header with
            | none => rfl
            | some sides => rfl

theorem answerAt_syntaxError :
    (Watcher.single Script.syntaxError?).answerAt lines i = (syntaxErrorAt lines i).toList := by
  rw [Watcher.answerAt_single here, syntaxErrorAt, here]
  simp only [Option.bind_eq_bind, Option.bind_some, Script.syntaxError?]
  cases after? "SyntaxError:".toList (trim line) with
  | none => rfl
  | some rest => rfl

theorem answerAt_java (folder : Text) :
    (Watcher.paired (Java.header? folder) Java.read).answerAt lines i =
      (javaAt folder lines i).toList := by
  rw [Watcher.answerAt_paired here, javaAt, here]
  cases above : above? lines 1 i with
  | none => rfl
  | some header =>
      have named : (Folder.names folder header && occursIn "error:".toList header) = true ↔
          folder ≠ [] ∧ occursIn folder header ∧ occursIn "error:".toList header := by
        simp [Folder.names, and_assoc]
      simp only [Option.bind_eq_bind, Option.bind_some, Java.header?, named]
      split
      · rfl
      · rfl

theorem answerAt_frame (settings : Settings) (folder : Text) :
    (Watcher.paired (TestRunner.errorMessage? settings folder) TestRunner.readFrame).answerAt
      lines i = (frameAt settings folder lines i).toList := by
  rw [Watcher.answerAt_paired here, frameAt, here]
  cases above : above? lines 1 i with
  | none => rfl
  | some header =>
      have named : Folder.names folder header = true ↔ folder ≠ [] ∧ occursIn folder header := by
        simp [Folder.names]
      simp only [Option.bind_eq_bind, Option.bind_some, TestRunner.errorMessage?, named]
      split
      · rfl
      · cases cut? "Error:".toList header with
        | none => rfl
        | some sides => rfl

end Watchers

/-! ## The pass -/

theorem attempts_eq_flatMap_attemptsAt (settings : Settings) (folder : Text) (lines : List Text) :
    attempts settings folder lines =
      (List.range lines.length).flatMap (attemptsAt settings folder lines) := by
  rw [attempts, Panel.attempts_ofWatchers]
  apply List.flatMap_congr
  intro i member
  have inside : i < lines.length := List.mem_range.1 member
  have here : lines[i]? = some lines[i] := List.getElem?_eq_getElem inside
  simp only [watchers, List.flatMap_cons, List.flatMap_nil, attemptsAt,
    answerAt_lintWatcher here .eslint [".ts".toList, ".tsx".toList] (by decide),
    answerAt_lintWatcher here .vue [".vue".toList] (by decide),
    answerAt_wrapped here, answerAt_parenthesized here, answerAt_component here,
    answerAt_syntaxError here, answerAt_java here, answerAt_frame here]

/-- The records of the line pass are, line by line and in the order of the layouts, those that the
layouts read at that line. -/
theorem records_eq_layouts (settings : Settings) (folder : Text) (lines : List Text) :
    (attempts settings folder lines).filterMap Attempt.accepted? =
      (List.range lines.length).flatMap fun i =>
        (attemptsAt settings folder lines i).filterMap Attempt.accepted? := by
  rw [attempts_eq_flatMap_attemptsAt, List.filterMap_flatMap]

end BuildLog.LinePass
