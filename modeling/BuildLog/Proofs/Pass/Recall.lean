import BuildLog.Pass.Panel

/-!
# What watchers remember

A watcher meets a log line by line and carries a memory from line to line.  The memory holds nothing
but earlier lines, so it can be said without a run: it is the line above, the line two above, the
nearest line that is not blank, or the nearest header with entries all the way down.  A panel then
answers each line from the lines above it, and its watchers do not interfere.
-/

set_option autoImplicit false

namespace BuildLog

open Text

/-! ## Lines above a line -/

def above? (lines : List Text) (n i : Nat) : Option Text :=
  if n ≤ i then lines[i - n]? else none

def nearestAbove? (test : Text → Bool) (lines : List Text) : Nat → Option Nat
  | 0 => none
  | i + 1 => if lines[i]?.any test then some i else nearestAbove? test lines i

theorem nearestAbove?_eq_some_iff {test : Text → Bool} {lines : List Text} {i j : Nat} :
    nearestAbove? test lines i = some j ↔
      j < i ∧ lines[j]?.any test = true ∧ ∀ k, j < k → k < i → lines[k]?.any test = false := by
  induction i with
  | zero => simp [nearestAbove?]
  | succ i ih =>
      by_cases here : lines[i]?.any test = true
      · rw [nearestAbove?, if_pos here]
        constructor
        · intro same
          obtain rfl := Option.some.inj same
          exact ⟨Nat.lt_succ_self i, here, fun k above below => by omega⟩
        · rintro ⟨below, -, nearest⟩
          by_cases same : j = i
          · rw [same]
          · have passed := nearest i (by omega) (Nat.lt_succ_self i)
            rw [here] at passed
            cases passed
      · rw [nearestAbove?, if_neg here, ih]
        constructor
        · rintro ⟨below, found, nearest⟩
          refine ⟨by omega, found, ?_⟩
          intro k above within
          by_cases last : k = i
          · rw [last]
            simpa using here
          · exact nearest k above (by omega)
        · rintro ⟨below, found, nearest⟩
          have other : j ≠ i := by
            intro same
            exact here (same ▸ found)
          exact ⟨by omega, found, fun k above within => nearest k above (by omega)⟩

theorem nearestAbove?_lt {test : Text → Bool} {lines : List Text} {i j : Nat}
    (found : nearestAbove? test lines i = some j) : j < i :=
  (nearestAbove?_eq_some_iff.1 found).1

namespace Watcher

/-! ## The memory of each kind of watcher -/

theorem after_take_succ (watcher : Watcher) (memory : watcher.Memory) {lines : List Text} {i : Nat}
    {line : Text} (here : lines[i]? = some line) :
    watcher.after memory (lines.take (i + 1)) =
      (watcher.react (watcher.after memory (lines.take i)) line).2 := by
  simp [after, List.take_add_one, here]

section Memory
variable {opens : Text → Option Text} {lines : List Text} {i : Nat}

theorem after_paired (reads : Text → Text → Attempt) (inside : i ≤ lines.length) :
    (paired opens reads).after (paired opens reads).start (lines.take i) =
      (above? lines 1 i).bind opens := by
  cases i with
  | zero => rfl
  | succ i =>
      have here : lines[i]? = some lines[i] := List.getElem?_eq_getElem inside
      rw [after_take_succ _ _ here]
      simp [react, above?, here]

theorem after_distant (reads : Text → Text → Attempt) (inside : i ≤ lines.length) :
    (distant opens reads).after (distant opens reads).start (lines.take i) =
      ((above? lines 1 i).bind opens, (above? lines 2 i).bind opens) := by
  induction i with
  | zero => rfl
  | succ i ih =>
      have here : lines[i]? = some lines[i] := List.getElem?_eq_getElem inside
      rw [after_take_succ _ _ here, ih (by omega)]
      simp [react, above?, here]

theorem after_patient {reads : Text → Text → Option Attempt} (inside : i ≤ lines.length)
    (silent : ∀ line, isBlankLine line = true → opens line = none) :
    (patient opens reads).after (patient opens reads).start (lines.take i) =
      (nearestAbove? (fun line => !isBlankLine line) lines i).bind fun j =>
        lines[j]?.bind opens := by
  induction i with
  | zero => rfl
  | succ i ih =>
      have here : lines[i]? = some lines[i] := List.getElem?_eq_getElem inside
      rw [after_take_succ _ _ here, ih (by omega)]
      by_cases blank : isBlankLine lines[i] = true
      · simp [react, nearestAbove?, here, blank, silent]
      · simp [react, nearestAbove?, here, blank]

/-- The header of the list to which line `i` may belong: the nearest one above it, when every line
between the two is an entry. -/
def listHeader? (opens : Text → Option Text) (accepts : Text → Bool) (lines : List Text) (i : Nat) :
    Option Text :=
  (nearestAbove? (fun line => (opens line).isSome) lines i).bind fun j =>
    if ((lines.take i).drop (j + 1)).all accepts then lines[j]?.bind opens else none

section List
variable {accepts : Text → Bool} {line header : Text}

theorem listHeader?_succ_of_header (here : lines[i]? = some line)
    (opened : opens line = some header) :
    listHeader? opens accepts lines (i + 1) = some header := by
  have nearest : nearestAbove? (fun line => (opens line).isSome) lines (i + 1) = some i := by
    simp [nearestAbove?, here, opened]
  have nothingBetween : (lines.take (i + 1)).drop (i + 1) = [] := by simp
  rw [listHeader?, nearest, Option.bind_some, nothingBetween]
  simp [here, opened]

theorem listHeader?_succ_of_entry (here : lines[i]? = some line) (closed : opens line = none) :
    listHeader? opens accepts lines (i + 1) =
      if accepts line then listHeader? opens accepts lines i else none := by
  have same : nearestAbove? (fun line => (opens line).isSome) lines (i + 1) =
      nearestAbove? (fun line => (opens line).isSome) lines i := by
    simp [nearestAbove?, here, closed]
  rw [listHeader?, listHeader?, same]
  cases found : nearestAbove? (fun line => (opens line).isSome) lines i with
  | none => simp
  | some j =>
      have below := nearestAbove?_lt found
      have inside : i < lines.length := (List.getElem?_eq_some_iff.1 here).1
      have length : (lines.take i).length = i := by
        rw [List.length_take]
        omega
      have between : (lines.take (i + 1)).drop (j + 1) = (lines.take i).drop (j + 1) ++ [line] := by
        rw [List.take_add_one, here, Option.toList_some,
          List.drop_append_of_le_length (by omega)]
      rw [Option.bind_some, Option.bind_some, between, List.all_append, List.all_cons,
        List.all_nil, Bool.and_true]
      by_cases entry : accepts line = true
      · simp only [entry, Bool.and_true, ↓reduceIte]
      · simp [entry]

theorem opened_of_listHeader? (found : listHeader? opens accepts lines i = some header) :
    ∃ line, opens line = some header := by
  obtain ⟨j, -, kept⟩ := Option.bind_eq_some_iff.1 found
  split at kept
  · obtain ⟨line, -, opened⟩ := Option.bind_eq_some_iff.1 kept
    exact ⟨line, opened⟩
  · cases kept

theorem after_listing {reads : Text → Text → Attempt} (inside : i ≤ lines.length)
    (alike : ∀ header, (∃ line, opens line = some header) → ∀ line,
      (reads header line).accepted?.isSome = accepts line) :
    (listing opens reads).after (listing opens reads).start (lines.take i) =
      listHeader? opens accepts lines i := by
  induction i with
  | zero => rfl
  | succ i ih =>
      have here : lines[i]? = some lines[i] := List.getElem?_eq_getElem inside
      rw [after_take_succ _ _ here, ih (by omega)]
      -- a header replaces the one that is pending, any other line keeps it or ends its list
      cases opened : opens lines[i] with
      | some header =>
          rw [listHeader?_succ_of_header here opened]
          simp [react, opened]
      | none =>
          rw [listHeader?_succ_of_entry here opened]
          cases pending : listHeader? opens accepts lines i with
          | none => simp [react, opened]
          | some header =>
              have same := alike header (opened_of_listHeader? pending) lines[i]
              simp [react, opened, same]

end List

end Memory

end Watcher

/-! ## The answer to a line -/

/-- What a watcher, with what it remembers by now, answers to line `i` of a log. -/
def Watch.answerAt (watch : Watch) (lines : List Text) (i : Nat) : List Attempt :=
  match lines[i]? with
  | none => []
  | some line => (watch.watcher.react (watch.watcher.after watch.memory (lines.take i)) line).1

theorem Watch.answerAt_cons_succ (watch : Watch) (line : Text) (lines : List Text) (i : Nat) :
    watch.answerAt (line :: lines) (i + 1) = (watch.next line).answerAt lines i := by
  rfl

namespace Watcher

def answerAt (watcher : Watcher) (lines : List Text) (i : Nat) : List Attempt :=
  (Watch.ofWatcher watcher).answerAt lines i

theorem answerAt_eq (watcher : Watcher) {lines : List Text} {i : Nat} {line : Text}
    (here : lines[i]? = some line) :
    watcher.answerAt lines i =
      (watcher.react (watcher.after watcher.start (lines.take i)) line).1 := by
  rw [answerAt, Watch.answerAt, here]
  rfl

section Answer
variable {opens : Text → Option Text} {lines : List Text} {i : Nat} {line : Text}
  (here : lines[i]? = some line)
include here

theorem le_length_of_getElem? : i ≤ lines.length :=
  Nat.le_of_lt (List.getElem?_eq_some_iff.1 here).1

theorem answerAt_single (reads : Text → Option Attempt) :
    (single reads).answerAt lines i = (reads line).toList := by
  rw [answerAt_eq _ here]
  rfl

theorem answerAt_paired (reads : Text → Text → Attempt) :
    (paired opens reads).answerAt lines i =
      (((above? lines 1 i).bind opens).map fun header => reads header line).toList := by
  rw [answerAt_eq _ here, after_paired reads (le_length_of_getElem? here)]
  rfl

theorem answerAt_distant (reads : Text → Text → Attempt) :
    (distant opens reads).answerAt lines i =
      (((above? lines 2 i).bind opens).map fun header => reads header line).toList := by
  rw [answerAt_eq _ here, after_distant reads (le_length_of_getElem? here)]
  rfl

theorem answerAt_patient {reads : Text → Text → Option Attempt}
    (silent : ∀ line, isBlankLine line = true → opens line = none) :
    (patient opens reads).answerAt lines i =
      if isBlankLine line then []
      else
        (((nearestAbove? (fun line => !isBlankLine line) lines i).bind fun j =>
          lines[j]?.bind opens).bind fun header => reads header line).toList := by
  rw [answerAt_eq _ here, after_patient (le_length_of_getElem? here) silent]
  by_cases blank : isBlankLine line = true
  · simp [react, blank]
  · simp [react, blank]

theorem answerAt_listing {reads : Text → Text → Attempt} {accepts : Text → Bool}
    (alike : ∀ header, (∃ line, opens line = some header) → ∀ line,
      (reads header line).accepted?.isSome = accepts line) :
    (listing opens reads).answerAt lines i =
      ((listHeader? opens accepts lines i).map fun header => reads header line).toList := by
  rw [answerAt_eq _ here, after_listing (le_length_of_getElem? here) alike]
  rfl

end Answer

end Watcher

/-! ## Panels -/

namespace Panel

theorem after_eq_map (panel : Panel) (lines : List Text) :
    panel.after lines =
      panel.map fun watch => ⟨watch.watcher, watch.watcher.after watch.memory lines⟩ := by
  induction lines generalizing panel with
  | nil => simp [after, Watcher.after]
  | cons line lines ih =>
      have step : panel.after (line :: lines) = Panel.after (panel.map (·.next line)) lines := rfl
      rw [step, ih, List.map_map]
      rfl

theorem after_ofWatchers (watchers : List Watcher) (lines : List Text) :
    (ofWatchers watchers).after lines =
      watchers.map fun watcher => ⟨watcher, watcher.after watcher.start lines⟩ := by
  rw [after_eq_map, ofWatchers, List.map_map]
  rfl

theorem memory_of_mem_after {watchers : List Watcher} {lines : List Text} {watch : Watch}
    (member : watch ∈ (ofWatchers watchers).after lines) :
    watch.memory = watch.watcher.after watch.watcher.start lines := by
  rw [after_ofWatchers] at member
  obtain ⟨watcher, -, rfl⟩ := List.mem_map.1 member
  rfl

theorem flatMap_answer_after (watchers : List Watcher) (lines : List Text) (line : Text) :
    ((ofWatchers watchers).after lines).flatMap (·.answer line) =
      watchers.flatMap fun watcher => watcher.answerAt (lines ++ [line]) lines.length := by
  have here : (lines ++ [line])[lines.length]? = some line := by simp
  simp only [after_ofWatchers, List.flatMap_map, Watcher.answerAt_eq _ here, List.take_left]
  rfl

theorem attempts_eq_flatMap_answerAt (panel : Panel) (lines : List Text) :
    panel.attempts lines =
      (List.range lines.length).flatMap fun i => panel.flatMap fun watch =>
        watch.answerAt lines i := by
  induction lines generalizing panel with
  | nil => rfl
  | cons line lines ih =>
      have first : (fun watch : Watch => watch.answerAt (line :: lines) 0) =
          fun watch => watch.answer line := rfl
      rw [attempts, ih, List.length_cons, List.range_succ_eq_map, List.flatMap_cons,
        List.flatMap_map, first]
      simp only [List.flatMap_map, Watch.answerAt_cons_succ]

/-- A panel answers line by line and, within a line, watcher by watcher. -/
theorem attempts_ofWatchers (watchers : List Watcher) (lines : List Text) :
    (ofWatchers watchers).attempts lines =
      (List.range lines.length).flatMap fun i => watchers.flatMap fun watcher =>
        watcher.answerAt lines i := by
  rw [attempts_eq_flatMap_answerAt]
  simp only [ofWatchers, List.flatMap_map]
  rfl

end Panel

end BuildLog
