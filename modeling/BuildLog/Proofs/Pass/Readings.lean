import BuildLog.Proofs.Pass.Recall
import BuildLog.Proofs.Recognizer.Tags
import Mathlib.Data.List.Forall2

/-!
# What attempts are read from

A watcher makes its attempts from lines of the log and from nothing else: from one line, or from
what it has kept of an earlier line and the one that is shown.  A memory holds such pieces only, from
the start of a run to its end.  So what the recognizers do with any two lines of a log holds for
every attempt of a panel, and the attempts of a watcher can be told from those of the others by their
format.
-/

set_option autoImplicit false

namespace BuildLog

open Text

/-- What is kept, if anything, has been opened by one of the lines. -/
def Kept (opens : Text → Option Text) (lines : List Text) (kept : Option Text) : Prop :=
  ∀ piece, kept = some piece → ∃ header ∈ lines, opens header = some piece

theorem kept_none (opens : Text → Option Text) (lines : List Text) : Kept opens lines none := by
  intro piece impossible
  cases impossible

theorem kept_opens (opens : Text → Option Text) {lines : List Text} {line : Text}
    (member : line ∈ lines) : Kept opens lines (opens line) :=
  fun _ opened => ⟨line, member, opened⟩

theorem Kept.or {opens : Text → Option Text} {lines : List Text} {first second : Option Text}
    (one : Kept opens lines first) (other : Kept opens lines second) :
    Kept opens lines (first.or second) := by
  intro piece found
  rcases Option.or_eq_some_iff.1 found with here | ⟨-, there⟩
  · exact one piece here
  · exact other piece there

namespace Watcher

/-- The attempts that a watcher can make at some lines, whatever their order. -/
def Tries (lines : List Text) : Watcher → Attempt → Prop
  | single reads, attempt => ∃ line ∈ lines, reads line = some attempt
  | paired opens reads, attempt | listing opens reads, attempt | distant opens reads, attempt =>
      ∃ header ∈ lines, ∃ line ∈ lines, ∃ piece, opens header = some piece ∧
        reads piece line = attempt
  | patient opens reads, attempt =>
      ∃ header ∈ lines, ∃ line ∈ lines, ∃ piece, opens header = some piece ∧
        reads piece line = some attempt

def Remembers (lines : List Text) : (watcher : Watcher) → watcher.Memory → Prop
  | single _, _ => True
  | paired opens _, header | patient opens _, header | listing opens _, header =>
      Kept opens lines header
  | distant opens _, (above, twoAbove) => Kept opens lines above ∧ Kept opens lines twoAbove

theorem remembers_start (lines : List Text) (watcher : Watcher) :
    watcher.Remembers lines watcher.start := by
  cases watcher with
  | single reads => trivial
  | paired opens reads => exact kept_none opens lines
  | patient opens reads => exact kept_none opens lines
  | listing opens reads => exact kept_none opens lines
  | distant opens reads => exact ⟨kept_none opens lines, kept_none opens lines⟩

/-! ## One line -/

section Step
variable {lines : List Text} {line : Text} (member : line ∈ lines)
include member

theorem remembers_react {watcher : Watcher} {memory : watcher.Memory}
    (remembers : watcher.Remembers lines memory) :
    watcher.Remembers lines (watcher.react memory line).2 := by
  cases watcher with
  | single reads => trivial
  | paired opens reads => exact kept_opens opens member
  | patient opens reads =>
      by_cases blank : isBlankLine line = true
      · simp only [react, blank, ↓reduceIte]
        exact (kept_opens opens member).or remembers
      · simp only [react, blank, Bool.false_eq_true, ↓reduceIte]
        exact kept_opens opens member
  | listing opens reads =>
      have pending : Kept opens lines
          (if ((memory.map (reads · line)).bind Attempt.accepted?).isSome then memory
            else none) := by
        split
        · exact remembers
        · exact kept_none opens lines
      exact (kept_opens opens member).or pending
  | distant opens reads =>
      obtain ⟨above, twoAbove⟩ := memory
      exact ⟨kept_opens opens member, remembers.1⟩

theorem tries_of_mem_react {watcher : Watcher} {memory : watcher.Memory}
    (remembers : watcher.Remembers lines memory) {attempt : Attempt}
    (answered : attempt ∈ (watcher.react memory line).1) : watcher.Tries lines attempt := by
  -- an attempt at a kept piece is one at the header that the piece comes from
  have atHeader : ∀ {opens : Text → Option Text} {reads : Text → Text → Attempt}
      {kept : Option Text}, Kept opens lines kept →
      attempt ∈ (kept.map (reads · line)).toList → ∃ header ∈ lines, ∃ line ∈ lines, ∃ piece,
        opens header = some piece ∧ reads piece line = attempt := by
    intro opens reads kept holds answer
    obtain ⟨piece, found, same⟩ := Option.map_eq_some_iff.1 (Option.mem_toList.1 answer)
    obtain ⟨header, inside, opened⟩ := holds piece found
    exact ⟨header, inside, line, member, piece, opened, same⟩
  cases watcher with
  | single reads => exact ⟨line, member, Option.mem_toList.1 answered⟩
  | paired opens reads => exact atHeader remembers answered
  | patient opens reads =>
      by_cases blank : isBlankLine line = true
      · simp [react, blank] at answered
      · simp only [react, blank, Bool.false_eq_true, ↓reduceIte] at answered
        obtain ⟨piece, found, same⟩ := Option.bind_eq_some_iff.1 (Option.mem_toList.1 answered)
        obtain ⟨header, inside, opened⟩ := remembers piece found
        exact ⟨header, inside, line, member, piece, opened, same⟩
  | listing opens reads => exact atHeader remembers answered
  | distant opens reads =>
      obtain ⟨above, twoAbove⟩ := memory
      exact atHeader remembers.2 answered

end Step

/-! ## Runs -/

theorem remembers_after {lines : List Text} {watcher : Watcher} {memory : watcher.Memory}
    (remembers : watcher.Remembers lines memory) {shown : List Text} (inside : shown ⊆ lines) :
    watcher.Remembers lines (watcher.after memory shown) := by
  induction shown generalizing memory with
  | nil => exact remembers
  | cons line shown ih =>
      have here : line ∈ lines := inside List.mem_cons_self
      have later : shown ⊆ lines := fun other member => inside (List.mem_cons_of_mem line member)
      exact ih (remembers_react here remembers) later

theorem tries_of_mem_answerAt {watcher : Watcher} {lines : List Text} {i : Nat} {attempt : Attempt}
    (answered : attempt ∈ watcher.answerAt lines i) : watcher.Tries lines attempt := by
  cases here : lines[i]? with
  | none =>
      rw [answerAt, Watch.answerAt, here] at answered
      cases answered
  | some line =>
      rw [answerAt_eq watcher here] at answered
      have member : line ∈ lines := List.mem_of_getElem? here
      have remembers := remembers_after (remembers_start lines watcher)
        (List.take_subset i lines)
      exact tries_of_mem_react member remembers answered

end Watcher

/-- Whatever lines a watcher is shown, its attempts are those of readers of some formats. -/
def Watcher.Reads (formats : List Format) (watcher : Watcher) : Prop :=
  ∀ lines attempt, watcher.Tries lines attempt → ∃ format ∈ formats, format.Owns attempt

namespace Panel

theorem exists_tries_of_mem_attempts {watchers : List Watcher} {lines : List Text}
    {attempt : Attempt} (member : attempt ∈ (ofWatchers watchers).attempts lines) :
    ∃ watcher ∈ watchers, watcher.Tries lines attempt := by
  rw [attempts_ofWatchers] at member
  obtain ⟨i, -, answered⟩ := List.mem_flatMap.1 member
  obtain ⟨watcher, inside, answered⟩ := List.mem_flatMap.1 answered
  exact ⟨watcher, inside, Watcher.tries_of_mem_answerAt answered⟩

/-! ## Watchers told apart by their formats -/

def Tagged (format : Format) (watcher : Watcher) : Prop :=
  ∀ lines attempt, watcher.Tries lines attempt → attempt.format = format

theorem tagged_of_reads {format : Format} {watcher : Watcher} (reads : watcher.Reads [format]) :
    Tagged format watcher := by
  intro lines attempt tries
  obtain ⟨other, member, owns⟩ := reads lines attempt tries
  rw [owns.format_eq, List.mem_singleton.1 member]

theorem filter_answerAt_of_reads {formats : List Format} {watcher : Watcher}
    (reads : watcher.Reads formats) {format : Format} (absent : format ∉ formats)
    (lines : List Text) (i : Nat) :
    (watcher.answerAt lines i).filter (fun attempt => attempt.format = format) = [] := by
  rw [List.filter_eq_nil_iff]
  intro attempt answered
  obtain ⟨other, member, owns⟩ := reads lines attempt (Watcher.tries_of_mem_answerAt answered)
  rw [owns.format_eq, decide_eq_true_eq]
  rintro rfl
  exact absent member

section Tagged
variable {formats : List Format} {watchers : List Watcher}

theorem filter_answerAt_of_tagged {format other : Format} {watcher : Watcher}
    (tagged : Tagged other watcher) (lines : List Text) (i : Nat) :
    (watcher.answerAt lines i).filter (fun attempt => attempt.format = format) =
      if other = format then watcher.answerAt lines i else [] := by
  have format_eq : ∀ attempt ∈ watcher.answerAt lines i, attempt.format = other :=
    fun attempt answered => tagged lines attempt (Watcher.tries_of_mem_answerAt answered)
  split
  · next same =>
      rw [List.filter_eq_self]
      intro attempt answered
      rw [format_eq attempt answered, same]
      exact decide_eq_true rfl
  · next different =>
      rw [List.filter_eq_nil_iff]
      intro attempt answered
      rw [format_eq attempt answered]
      simpa using different

theorem filter_answers_of_not_mem (tagged : List.Forall₂ Tagged formats watchers)
    {format : Format} (absent : format ∉ formats) (lines : List Text) (i : Nat) :
    (watchers.flatMap (·.answerAt lines i)).filter (fun attempt => attempt.format = format) =
      [] := by
  induction tagged with
  | nil => rfl
  | @cons head watcher formats watchers first rest ih =>
      have different : head ≠ format := fun same => absent (same ▸ List.mem_cons_self)
      rw [List.flatMap_cons, List.filter_append, filter_answerAt_of_tagged first,
        if_neg different, ih fun later => absent (List.mem_cons_of_mem head later)]
      rfl

theorem filter_answers_of_mem (tagged : List.Forall₂ Tagged formats watchers)
    (distinct : formats.Nodup) {format : Format} {watcher : Watcher}
    (member : (format, watcher) ∈ formats.zip watchers) (lines : List Text) (i : Nat) :
    (watchers.flatMap (·.answerAt lines i)).filter (fun attempt => attempt.format = format) =
      watcher.answerAt lines i := by
  induction tagged with
  | nil => cases member
  | @cons head other formats watchers first rest ih =>
      obtain ⟨fresh, distinct⟩ := List.nodup_cons.1 distinct
      rw [List.flatMap_cons, List.filter_append, filter_answerAt_of_tagged first]
      rcases List.mem_cons.1 member with same | later
      · cases same
        rw [if_pos rfl, filter_answers_of_not_mem rest fresh, List.append_nil]
      · have different : head ≠ format := fun same => fresh (same ▸ (List.of_mem_zip later).1)
        rw [if_neg different, List.nil_append, ih distinct later]

/-- Among watchers of different formats, the attempts of one format are those that its watcher would
make alone. -/
theorem filter_attempts_ofWatchers (tagged : List.Forall₂ Tagged formats watchers)
    (distinct : formats.Nodup) {format : Format} {watcher : Watcher}
    (member : (format, watcher) ∈ formats.zip watchers) (lines : List Text) :
    ((ofWatchers watchers).attempts lines).filter (fun attempt => attempt.format = format) =
      (ofWatchers [watcher]).attempts lines := by
  rw [attempts_ofWatchers, attempts_ofWatchers, List.filter_flatMap]
  apply List.flatMap_congr
  intro i _
  rw [filter_answers_of_mem tagged distinct member, List.flatMap_cons, List.flatMap_nil,
    List.append_nil]

end Tagged

end Panel

end BuildLog
