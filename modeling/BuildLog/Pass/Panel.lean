import BuildLog.Record
import BuildLog.Text.Characters

/-!
# Watchers and panels

How a log is read line by line.
-/

set_option autoImplicit false

/-! ## Watchers

A watcher looks out for one layout while a log goes by, line after line.  Layouts of one line need
no memory; the others remember a header until the lines that belong to it have come.  Watchers do
not see each other: a line is shown to every one of them.
-/

namespace BuildLog

open Text

inductive Watcher where
  /-- A line that says everything. -/
  | single (reads : Text → Option Attempt)
  /-- A header and the very next line. -/
  | paired (opens : Text → Option Text) (reads : Text → Text → Attempt)
  /-- A header and the next line that is not blank.  That line may decline to be read. -/
  | patient (opens : Text → Option Text) (reads : Text → Text → Option Attempt)
  /-- A header and the run of entries below it. -/
  | listing (opens : Text → Option Text) (reads : Text → Text → Attempt)
  /-- A header and the line two below it. -/
  | distant (opens : Text → Option Text) (reads : Text → Text → Attempt)

namespace Watcher

abbrev Memory : Watcher → Type
  | single _ => Unit
  | paired _ _ => Option Text
  | patient _ _ => Option Text
  | listing _ _ => Option Text
  | distant _ _ => Option Text × Option Text

def start : (watcher : Watcher) → watcher.Memory
  | single _ => ()
  | paired _ _ => none
  | patient _ _ => none
  | listing _ _ => none
  | distant _ _ => (none, none)

/-- Shows a line to a watcher: its attempts at a record, and what it remembers from now on.  A line
first ends what is pending and then opens something new. -/
def react : (watcher : Watcher) → watcher.Memory → Text → List Attempt × watcher.Memory
  | single reads, _, line => ((reads line).toList, ())
  | paired opens reads, header, line => ((header.map (reads · line)).toList, opens line)
  | patient opens reads, header, line =>
    if isBlankLine line then ([], (opens line).or header)
    else ((header.bind (reads · line)).toList, opens line)
  | listing opens reads, header, line =>
    let attempt := header.map (reads · line)
    let kept := if (attempt.bind Attempt.accepted?).isSome then header else none
    (attempt.toList, (opens line).or kept)
  | distant opens reads, (above, twoAbove), line =>
    ((twoAbove.map (reads · line)).toList, (opens line, above))

def after (watcher : Watcher) (memory : watcher.Memory) (lines : List Text) : watcher.Memory :=
  lines.foldl (fun memory line => (watcher.react memory line).2) memory

end Watcher

/-! ## Panels

A panel is a row of watchers over one log.  Every line is shown to the watchers in their order, so
the attempts come line by line and, within a line, watcher by watcher.
-/

structure Watch where
  watcher : Watcher
  memory : watcher.Memory

namespace Watch

def ofWatcher (watcher : Watcher) : Watch :=
  ⟨watcher, watcher.start⟩

def answer (watch : Watch) (line : Text) : List Attempt :=
  (watch.watcher.react watch.memory line).1

def next (watch : Watch) (line : Text) : Watch :=
  ⟨watch.watcher, (watch.watcher.react watch.memory line).2⟩

end Watch

abbrev Panel := List Watch

namespace Panel

def ofWatchers (watchers : List Watcher) : Panel :=
  watchers.map Watch.ofWatcher

def after (panel : Panel) (lines : List Text) : Panel :=
  lines.foldl (fun panel line => panel.map (·.next line)) panel

def attempts (panel : Panel) : List Text → List Attempt
  | [] => []
  | line :: lines => panel.flatMap (·.answer line) ++ attempts (panel.map (·.next line)) lines

theorem attempts_append (panel : Panel) (first second : List Text) :
    panel.attempts (first ++ second) =
      panel.attempts first ++ (panel.after first).attempts second := by
  induction first generalizing panel with
  | nil => rfl
  | cons line first ih => simp [attempts, after, ih]

end Panel

end BuildLog
