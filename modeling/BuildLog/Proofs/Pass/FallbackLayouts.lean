import BuildLog.Pass.Layouts
import BuildLog.Proofs.Pass.Recall
import BuildLog.Proofs.Recognizer.Tags
import Mathlib.Data.List.Basic

/-!
# The fallback pass, layout by layout

What the last pass tries at a line, said from the lines of the log alone.  The place of a bundler
block stands two lines below its header, whatever stands between them, so headers on consecutive
lines do not disturb each other: each one is tried with its own line, and only once.
-/

set_option autoImplicit false

namespace BuildLog.FallbackPass

open Text

/-! ## The layouts at a line -/

/-- A place two lines below a header `✘ [ERROR] `. -/
def nestedAt (lines : List Text) (i : Nat) : Option Attempt := do
  let line ← lines[i]?
  let header ← above? lines 2 i
  if startsWith (Bundler.errorMark ++ [' ']) header then
    some (Bundler.readNested (Bundler.headerMessage header) line)
  else none

/-- A line that starts with `Error: `, or else one that contains `- error TS`. -/
def statementAt (lines : List Text) (i : Nat) : Option Attempt := do
  let line ← lines[i]?
  match after? "Error: ".toList line with
  | some rest => some (TypeScript.readLabelled line rest)
  | none =>
    let (place, message) ← cut? "- error TS".toList line
    some (TypeScript.readBatch place ("error TS".toList ++ message))

/-- A line that is neither blank nor a suite, below a line that starts with `FAIL `.  Blank lines
may stand between the two. -/
def titleAt (lines : List Text) (i : Nat) : Option Attempt := do
  let line ← lines[i]?
  if isBlankLine line ∨ startsWith "FAIL ".toList line then none
  else
    let j ← nearestAbove? (fun line => !isBlankLine line) lines i
    let header ← lines[j]?
    let suite ← after? "FAIL ".toList header
    some (TestRunner.readTitle (cutBefore TestRunner.isTiming (trim suite)) line)

def attemptsAt (lines : List Text) (i : Nat) : List Attempt :=
  [ nestedAt lines i, statementAt lines i, titleAt lines i ].flatMap Option.toList

def tryOfHeader (lines : List Text) (i : Nat) : Option Attempt := do
  let header ← lines[i]?
  let place ← lines[i + 2]?
  if startsWith (Bundler.errorMark ++ [' ']) header then
    some (Bundler.readNested (Bundler.headerMessage header) place)
  else none

/-! ## The watchers of the pass -/

theorem suite?_of_isBlankLine (line : Text) (blank : isBlankLine line = true) :
    TestRunner.suite? line = none := by
  cases found : TestRunner.suite? line with
  | none => rfl
  | some path =>
      obtain ⟨suite, marked, -⟩ := Option.map_eq_some_iff.1 found
      rw [after?_eq_some_iff.1 marked, isBlankLine, List.all_append] at blank
      exact absurd (Bool.and_eq_true_iff.1 blank).1 (by decide)

theorem nestedHeader?_eq (line : Text) :
    Bundler.nestedHeader? line =
      if startsWith (Bundler.errorMark ++ [' ']) line then some (Bundler.headerMessage line)
      else none := by
  rw [Bundler.nestedHeader?, startsWith]
  cases after? (Bundler.errorMark ++ [' ']) line with
  | none => rfl
  | some rest => rfl

theorem readBelowSuite_eq (path line : Text) :
    readBelowSuite path line =
      if startsWith "FAIL ".toList line then none else some (TestRunner.readTitle path line) := by
  rw [readBelowSuite, TestRunner.suite?, startsWith]
  cases after? "FAIL ".toList line with
  | none => rfl
  | some suite => rfl

section Watchers
variable {lines : List Text} {i : Nat} {line : Text} (here : lines[i]? = some line)
include here

theorem answerAt_nested :
    (Watcher.distant Bundler.nestedHeader? Bundler.readNested).answerAt lines i =
      (nestedAt lines i).toList := by
  rw [Watcher.answerAt_distant here, nestedAt, here]
  cases above : above? lines 2 i with
  | none => rfl
  | some header =>
      simp only [Option.bind_eq_bind, Option.bind_some, nestedHeader?_eq]
      split
      · rfl
      · rfl

theorem answerAt_statement :
    (Watcher.single TypeScript.statement?).answerAt lines i = (statementAt lines i).toList := by
  rw [Watcher.answerAt_single here, statementAt, here]
  simp only [Option.bind_eq_bind, Option.bind_some, TypeScript.statement?]
  cases after? "Error: ".toList line with
  | some rest => rfl
  | none =>
      cases cut? "- error TS".toList line with
      | none => rfl
      | some sides => rfl

theorem answerAt_title :
    (Watcher.patient TestRunner.suite? readBelowSuite).answerAt lines i =
      (titleAt lines i).toList := by
  rw [Watcher.answerAt_patient here suite?_of_isBlankLine, titleAt, here]
  simp only [Option.bind_eq_bind, Option.bind_some]
  by_cases blank : isBlankLine line = true
  · rw [if_pos blank, if_pos (Or.inl blank)]
    rfl
  · rw [if_neg blank]
    by_cases another : startsWith "FAIL ".toList line = true
    · have unread : ∀ path, readBelowSuite path line = none := by
        intro path
        rw [readBelowSuite_eq, if_pos another]
      simp only [unread, Option.bind_fun_none, another, or_true, ↓reduceIte, Option.toList_none]
    · have title : ∀ path, readBelowSuite path line = some (TestRunner.readTitle path line) := by
        intro path
        rw [readBelowSuite_eq, if_neg another]
      have reached : ¬ (isBlankLine line = true ∨ startsWith "FAIL ".toList line = true) := by
        rintro (isBlank | isSuite)
        · exact blank isBlank
        · exact another isSuite
      rw [if_neg reached]
      cases found : nearestAbove? (fun line => !isBlankLine line) lines i with
      | none => rfl
      | some j =>
          rw [Option.bind_some, Option.bind_some]
          cases lines[j]? with
          | none => rfl
          | some header =>
              simp only [Option.bind_some, TestRunner.suite?, title]
              cases after? "FAIL ".toList header with
              | none => rfl
              | some suite => rfl

end Watchers

/-! ## The pass -/

theorem attempts_eq_flatMap_attemptsAt (lines : List Text) :
    attempts lines = (List.range lines.length).flatMap (attemptsAt lines) := by
  rw [attempts, Panel.attempts_ofWatchers]
  apply List.flatMap_congr
  intro i member
  have inside : i < lines.length := List.mem_range.1 member
  have here : lines[i]? = some lines[i] := List.getElem?_eq_getElem inside
  simp only [watchers, List.flatMap_cons, List.flatMap_nil, attemptsAt, answerAt_nested here,
    answerAt_statement here, answerAt_title here]

/-! ## Headers of bundler blocks -/

section Formats
variable {lines : List Text} {i : Nat} {attempt : Attempt}

theorem format_of_nestedAt (found : nestedAt lines i = some attempt) :
    attempt.format = .viteBlock := by
  simp only [nestedAt, Option.bind_eq_bind, Option.bind_eq_some_iff] at found
  obtain ⟨line, -, header, -, kept⟩ := found
  split at kept
  · cases kept
    exact (Bundler.owns_readNested _ _).format_eq
  · cases kept

theorem format_of_statementAt (found : statementAt lines i = some attempt) :
    attempt.format ≠ .viteBlock := by
  simp only [statementAt, Option.bind_eq_bind, Option.bind_eq_some_iff] at found
  obtain ⟨line, -, kept⟩ := found
  split at kept
  · cases kept
    rw [(TypeScript.owns_readLabelled _ _).format_eq]
    decide
  · obtain ⟨⟨place, message⟩, -, same⟩ := Option.bind_eq_some_iff.1 kept
    cases same
    rw [(TypeScript.owns_readBatch _ _).format_eq]
    decide

theorem format_of_titleAt (found : titleAt lines i = some attempt) :
    attempt.format ≠ .viteBlock := by
  simp only [titleAt, Option.bind_eq_bind, Option.bind_eq_some_iff] at found
  obtain ⟨line, -, kept⟩ := found
  split at kept
  · cases kept
  · simp only [Option.bind_eq_some_iff] at kept
    obtain ⟨j, -, header, -, suite, -, same⟩ := kept
    cases same
    rw [(TestRunner.owns_readTitle _ _).format_eq]
    decide

end Formats

theorem filter_attemptsAt (lines : List Text) (i : Nat) :
    (attemptsAt lines i).filter (fun attempt => attempt.format = .viteBlock) =
      (nestedAt lines i).toList := by
  have nested : (nestedAt lines i).toList.filter (fun attempt => attempt.format = .viteBlock) =
      (nestedAt lines i).toList := by
    rw [List.filter_eq_self]
    intro attempt member
    exact decide_eq_true (format_of_nestedAt (Option.mem_toList.1 member))
  have statement :
      (statementAt lines i).toList.filter (fun attempt => attempt.format = .viteBlock) = [] :=
    Attempt.filter_toList_eq_nil (· = .viteBlock) fun _ found =>
      decide_eq_false (format_of_statementAt found)
  have title :
      (titleAt lines i).toList.filter (fun attempt => attempt.format = .viteBlock) = [] :=
    Attempt.filter_toList_eq_nil (· = .viteBlock) fun _ found =>
      decide_eq_false (format_of_titleAt found)
  simp only [attemptsAt, List.flatMap_cons, List.flatMap_nil, List.filter_append, nested,
    statement, title, List.append_nil]

theorem nestedAt_of_lt_two (lines : List Text) {i : Nat} (early : i < 2) :
    nestedAt lines i = none := by
  have nothing : above? lines 2 i = none := by
    rw [above?, if_neg (by omega)]
  rw [nestedAt, nothing]
  cases lines[i]? with
  | none => rfl
  | some line => rfl

theorem nestedAt_add_two (lines : List Text) (i : Nat) :
    nestedAt lines (2 + i) = tryOfHeader lines i := by
  have header : above? lines 2 (2 + i) = lines[i]? := by
    rw [above?, if_pos (by omega), Nat.add_sub_cancel_left]
  rw [nestedAt, tryOfHeader, header, Nat.add_comm 2 i]
  cases lines[i]? with
  | none =>
      cases lines[i + 2]? with
      | none => rfl
      | some place => rfl
  | some header => rfl

theorem filterMap_nestedAt (lines : List Text) :
    (List.range lines.length).filterMap (nestedAt lines) =
      (List.range (lines.length - 2)).filterMap (tryOfHeader lines) := by
  by_cases long : 2 ≤ lines.length
  · obtain ⟨n, length⟩ := Nat.exists_eq_add_of_le long
    have none : (List.range 2).filterMap (nestedAt lines) = [] := by
      rw [List.filterMap_eq_nil_iff]
      intro i member
      exact nestedAt_of_lt_two lines (List.mem_range.1 member)
    rw [length, Nat.add_sub_cancel_left, List.range_add, List.filterMap_append, none,
      List.nil_append, List.filterMap_map]
    apply List.filterMap_congr
    intro i _
    exact nestedAt_add_two lines i
  · have short : lines.length - 2 = 0 := by omega
    rw [short, List.range_zero, List.filterMap_nil, List.filterMap_eq_nil_iff]
    intro i member
    have inside := List.mem_range.1 member
    exact nestedAt_of_lt_two lines (by omega)

theorem filter_attempts (lines : List Text) :
    (attempts lines).filter (fun attempt => attempt.format = .viteBlock) =
      (List.range (lines.length - 2)).filterMap (tryOfHeader lines) := by
  rw [attempts_eq_flatMap_attemptsAt, List.filter_flatMap, ← filterMap_nestedAt,
    List.filterMap_eq_flatMap_toList]
  simp only [filter_attemptsAt]

/-- The records of the last pass are those that the layouts read line by line.  Every header of a
bundler block with two lines below it is tried once, in the order of the headers, and nothing else
is tried as a place of such a block. -/
theorem records_and_tries_of_headers (lines : List Text) :
    (attempts lines).filterMap Attempt.accepted? =
        ((List.range lines.length).flatMap fun i =>
          (attemptsAt lines i).filterMap Attempt.accepted?) ∧
      (attempts lines).filter (fun attempt => attempt.format = .viteBlock) =
        (List.range (lines.length - 2)).filterMap (tryOfHeader lines) := by
  constructor
  · rw [attempts_eq_flatMap_attemptsAt, List.filterMap_flatMap]
  · exact filter_attempts lines

/-- Two headers on consecutive lines. -/
example :
    attempts ["✘ [ERROR] first".toList, "✘ [ERROR] second".toList, "a.ts:1:2:".toList,
        "b.ts:3:4:".toList] =
      [.ok ⟨.viteBlock, "a.ts".toList, 0, 1, "first".toList⟩,
        .ok ⟨.viteBlock, "b.ts".toList, 2, 3, "second".toList⟩] := by
  decide

end BuildLog.FallbackPass
