import BuildLog.Proofs.Pass.LintLists

/-!
# One layout alone

The records of one layout are those that its watcher would make if it stood alone, so what a layout
makes of a few lines is found by showing them to one watcher.
-/

set_option autoImplicit false

namespace BuildLog

open Text

def Attempt.recordsOf (format : Format) (attempts : List Attempt) : List Diagnostic :=
  (attempts.filterMap Attempt.accepted?).filter fun diagnostic => diagnostic.format = format

theorem LinePass.recordsOf_attempts {settings : Settings} {folder : Text} {format : Format}
    {watcher : Watcher} (member : (format, watcher) ∈ formats.zip (watchers settings folder))
    (lines : List Text) :
    Attempt.recordsOf format (attempts settings folder lines) =
      ((Panel.ofWatchers [watcher]).attempts lines).filterMap Attempt.accepted? := by
  have distinct : formats.Nodup := by decide
  have own := Panel.filter_attempts_ofWatchers (tagged_watchers settings folder) distinct member
    lines
  rw [Attempt.recordsOf, filter_format_accepted, attempts, own]

/-! ## A watcher alone -/

theorem LinePass.attempts_paired_pair (opens : Text → Option Text) (reads : Text → Text → Attempt)
    (first second : Text) :
    (Panel.ofWatchers [.paired opens reads]).attempts [first, second] =
      ((opens first).map (reads · second)).toList := by
  simp [Panel.ofWatchers, Panel.attempts, Watch.ofWatcher, Watch.answer, Watch.next,
    Watcher.react, Watcher.start]

namespace Panel

theorem attempts_single (reads : Text → Option Attempt) (line : Text) :
    (ofWatchers [.single reads]).attempts [line] = (reads line).toList := by
  simp [ofWatchers, attempts, Watch.ofWatcher, Watch.answer, Watcher.react, Watcher.start]

section Patient
variable {opens : Text → Option Text} (reads : Text → Text → Option Attempt)
  (closed : ∀ line, isBlankLine line = true → opens line = none)
include closed

theorem blanks_patient (header : Option Text) {blanks : List Text}
    (blank : ∀ line ∈ blanks, isBlankLine line = true) :
    let panel : Panel := [⟨.patient opens reads, header⟩]
    panel.attempts blanks = [] ∧ panel.after blanks = panel := by
  intro panel
  induction blanks with
  | nil => exact ⟨rfl, rfl⟩
  | cons line blanks ih =>
      obtain ⟨first, rest⟩ := List.forall_mem_cons.1 blank
      obtain ⟨silent, same⟩ := ih rest
      have answer : panel.flatMap (·.answer line) = [] := by
        simp [panel, Watch.answer, Watcher.react, first]
      have next : panel.map (·.next line) = panel := by
        simp [panel, Watch.next, Watcher.react, first, closed line first]
      constructor
      · rw [attempts, answer, next, silent, List.nil_append]
      · rw [after, List.foldl_cons, next]
        exact same

/-- A header waits over blank lines and is read with the first line that is not blank, and with this
line only. -/
theorem attempts_patient (header : Text) {line : Text} {blanks : List Text}
    (blank : ∀ line ∈ blanks, isBlankLine line = true) (spoken : isBlankLine line = false) :
    let panel := ofWatchers [.patient opens reads]
    panel.attempts (header :: blanks) = [] ∧
      panel.attempts (header :: blanks ++ [line]) = ((opens header).bind (reads · line)).toList := by
  intro panel
  have answer : panel.flatMap (·.answer header) = [] := by
    simp [panel, ofWatchers, Watch.ofWatcher, Watch.answer, Watcher.react, Watcher.start]
  have next : panel.map (·.next header) = [⟨.patient opens reads, opens header⟩] := by
    simp [panel, ofWatchers, Watch.ofWatcher, Watch.next, Watcher.react, Watcher.start]
  obtain ⟨silent, same⟩ := blanks_patient reads closed (opens header) blank
  have waiting : panel.attempts (header :: blanks) = [] := by
    rw [attempts, answer, next, silent, List.nil_append]
  refine ⟨waiting, ?_⟩
  have kept : panel.after (header :: blanks) = [⟨.patient opens reads, opens header⟩] := by
    rw [after, List.foldl_cons, next]
    exact same
  rw [attempts_append, waiting, kept]
  simp [attempts, Watch.answer, Watcher.react, spoken]

end Patient

end Panel

end BuildLog
