import BuildLog.Pass.Swift
import BuildLog.Proofs.Text.Trimming
import Mathlib.Data.List.Forall2

/-!
# Runs of the Swift pass

One line at a time, and then the windows of a whole log.
-/

set_option autoImplicit false

/-! ## Runs of the Swift pass

The records of a run come line by line: what a log gives is what its first part gives, followed by
what the rest gives from the state in which the first part leaves the pass.  The end of a log adds
no record.
-/

namespace BuildLog.SwiftPass

def after (skip : Nat) (state : State) (lines : List Text) : State :=
  lines.foldl (fun state line => (step skip state line).2) state

def recordsFrom (skip : Nat) (state : State) (lines : List Text) : List Diagnostic :=
  (outcomesFrom skip state lines).filterMap Outcome.accepted?

theorem filterMap_finish (state : State) : (finish state).filterMap Outcome.accepted? = [] := by
  cases state with
  | searching left => rfl
  | holding candidate => rfl

theorem recordsFrom_nil (skip : Nat) (state : State) : recordsFrom skip state [] = [] :=
  filterMap_finish state

theorem recordsFrom_cons (skip : Nat) (state : State) (line : Text) (lines : List Text) :
    recordsFrom skip state (line :: lines) =
      (step skip state line).1.filterMap Outcome.accepted? ++
        recordsFrom skip (step skip state line).2 lines := by
  simp only [recordsFrom, outcomesFrom, List.filterMap_append]

theorem recordsFrom_append (skip : Nat) (state : State) (first second : List Text) :
    recordsFrom skip state (first ++ second) =
      recordsFrom skip state first ++ recordsFrom skip (after skip state first) second := by
  induction first generalizing state with
  | nil =>
      rw [recordsFrom_nil]
      rfl
  | cons line first ih =>
      have later := ih (step skip state line).2
      rw [List.cons_append, recordsFrom_cons, recordsFrom_cons, later, List.append_assoc]
      rfl

theorem recordsFrom_take_succ (skip : Nat) (state : State) {lines : List Text} {n : Nat}
    {line : Text} (here : lines[n]? = some line) :
    recordsFrom skip state (lines.take (n + 1)) =
      recordsFrom skip state (lines.take n) ++
        (step skip (after skip state (lines.take n)) line).1.filterMap Outcome.accepted? := by
  rw [List.take_add_one, here, Option.toList_some, recordsFrom_append, recordsFrom_cons,
    recordsFrom_nil, List.append_nil]

theorem after_take_succ (skip : Nat) (state : State) {lines : List Text} {n : Nat} {line : Text}
    (here : lines[n]? = some line) :
    after skip state (lines.take (n + 1)) =
      (step skip (after skip state (lines.take n)) line).2 := by
  simp [after, List.take_add_one, here]

end BuildLog.SwiftPass

/-! ## The windows of a Swift log

A record of the Swift pass is made of two lines: a candidate and the first line below it that is not
a remark.  The two enclose a window, the windows of a run do not overlap, and behind each of them
some lines are passed over.  Nothing else is left out: a window that is not read has its candidate
among the lines passed over behind another one.
-/

namespace BuildLog

open Text

theorem Swift.read_trim (candidate context : Text) :
    read candidate (trim context) = read candidate context := by
  simp only [read, trim_trim]

namespace SwiftPass

def NamesError (line : Text) : Prop :=
  ".swift:".toList <:+: line ∧ ": error".toList <:+: lowered line

def Remark (line : Text) : Prop :=
  trim line = [] ∨ ['('] <+: trim line

theorem isCandidate_iff {line : Text} : Swift.isCandidate line = true ↔ NamesError line := by
  rw [Swift.isCandidate, Bool.and_eq_true, occursIn_iff, occursIn_iff, NamesError]

theorem isRemark_iff {line : Text} : isRemark line = true ↔ Remark line := by
  rw [isRemark, Bool.or_eq_true, startsWith_iff, ← trim_eq_nil_iff, Remark]

structure Window where
  candidate : Nat
  context : Nat

/-- The line `c` is a candidate that still waits for its line when the lines above line `n` have
been read. -/
structure OpenAt (lines : List Text) (n c : Nat) (candidate : Text) : Prop where
  above : c < n
  here : lines[c]? = some candidate
  named : NamesError candidate
  between : ∀ i line, c < i → i < n → lines[i]? = some line → ¬ NamesError line ∧ Remark line

structure Makes (lines : List Text) (window : Window) (diagnostic : Diagnostic)
    (candidate context : Text) : Prop where
  waiting : OpenAt lines window.context window.candidate candidate
  here : lines[window.context]? = some context
  closing : ¬ NamesError context ∧ ¬ Remark context
  read : Swift.read candidate (trim context) = .ok diagnostic

def MakesRecord (lines : List Text) (window : Window) (diagnostic : Diagnostic) : Prop :=
  ∃ candidate context, Makes lines window diagnostic candidate context

def PassedOver (skip : Nat) (windows : List Window) (i : Nat) : Prop :=
  ∃ window ∈ windows, window.context < i ∧ i ≤ window.context + skip

theorem PassedOver.append {skip i : Nat} {windows : List Window}
    (passed : PassedOver skip windows i) (more : List Window) :
    PassedOver skip (windows ++ more) i := by
  obtain ⟨window, member, between⟩ := passed
  exact ⟨window, List.mem_append_left more member, between⟩

/-- The windows that have been read when the lines above line `n` have been shown. -/
structure Account (skip : Nat) (lines : List Text) (n : Nat) (windows : List Window)
    (records : List Diagnostic) : Prop where
  separate : windows.Pairwise fun window next => window.context + skip < next.candidate
  recorded : List.Forall₂ (MakesRecord lines) windows records
  complete : ∀ window diagnostic, MakesRecord lines window diagnostic → window.context < n →
    window ∈ windows ∨ PassedOver skip windows window.candidate

def Stands (skip : Nat) (lines : List Text) (n : Nat) (windows : List Window) : State → Prop
  | .searching left =>
      (∀ window ∈ windows, window.context + skip < n + left) ∧
      (∀ i, n ≤ i → i < n + left → PassedOver skip windows i) ∧
      ∀ c candidate, OpenAt lines n c candidate → PassedOver skip windows c
  | .holding candidate =>
      ∃ c, OpenAt lines n c candidate ∧ ∀ window ∈ windows, window.context + skip < c

section Step
variable {skip n : Nat} {lines : List Text} {line : Text} (here : lines[n]? = some line)

/-! ### Candidates that wait -/

theorem OpenAt.unique {c d : Nat} {first second : Text} (one : OpenAt lines n c first)
    (other : OpenAt lines n d second) : c = d ∧ first = second := by
  -- of two, the lower one would stand between the upper one and its line
  have notBelow : ∀ {i j : Nat} {upper lower : Text}, OpenAt lines n i upper →
      OpenAt lines n j lower → ¬ i < j := by
    intro i j upper lower higher later below
    exact (higher.between j lower below later.above later.here).1 later.named
  have same : c = d := Nat.le_antisymm (Nat.le_of_not_lt (notBelow other one))
    (Nat.le_of_not_lt (notBelow one other))
  subst same
  have text := one.here.symm.trans other.here
  exact ⟨rfl, Option.some.inj text⟩

theorem Account.concat {windows : List Window} {records : List Diagnostic}
    (account : Account skip lines n windows records) {c : Nat} {candidate : Text}
    (waiting : OpenAt lines n c candidate)
    (ended : ∀ window ∈ windows, window.context + skip < c) {diagnostic : Diagnostic}
    (makes : MakesRecord lines ⟨c, n⟩ diagnostic) :
    Account skip lines (n + 1) (windows ++ [⟨c, n⟩]) (records ++ [diagnostic]) := by
  refine ⟨?_, List.rel_append account.recorded (.cons makes .nil), ?_⟩
  · rw [List.pairwise_append]
    refine ⟨account.separate, List.pairwise_singleton _ _, ?_⟩
    intro window member last same
    obtain rfl := List.mem_singleton.1 same
    exact ended window member
  · rintro ⟨d, x⟩ other ⟨first, second, makesOther⟩ above
    -- a window that ends here has the candidate that waits; the others are in the account
    by_cases last : x = n
    · subst last
      obtain ⟨rfl, -⟩ := waiting.unique makesOther.waiting
      exact .inl (List.mem_append_right _ (List.mem_singleton_self _))
    · have before : x < n := by
        have : x < n + 1 := above
        omega
      rcases account.complete ⟨d, x⟩ other ⟨first, second, makesOther⟩ before with member | passed
      · exact .inl (List.mem_append_left _ member)
      · exact .inr (passed.append [⟨c, n⟩])

include here

theorem OpenAt.succ_iff {c : Nat} {candidate : Text} :
    OpenAt lines (n + 1) c candidate ↔
      (c = n ∧ line = candidate ∧ NamesError line) ∨
        (OpenAt lines n c candidate ∧ ¬ NamesError line ∧ Remark line) := by
  constructor
  · intro waiting
    by_cases last : c = n
    · subst last
      have same := Option.some.inj (here.symm.trans waiting.here)
      exact .inl ⟨rfl, same, same ▸ waiting.named⟩
    · have above : c < n := by
        have := waiting.above
        omega
      have passed := waiting.between n line above (Nat.lt_succ_self n) here
      exact .inr ⟨⟨above, waiting.here, waiting.named, fun i other low high =>
        waiting.between i other low (Nat.lt_succ_of_lt high)⟩, passed⟩
  · rintro (⟨rfl, rfl, named⟩ | ⟨waiting, passed⟩)
    · exact ⟨Nat.lt_succ_self c, here, named, fun i other low high => by omega⟩
    · refine ⟨Nat.lt_succ_of_lt waiting.above, waiting.here, waiting.named, ?_⟩
      intro i other low high found
      by_cases last : i = n
      · subst last
        exact Option.some.inj (here.symm.trans found) ▸ passed
      · exact waiting.between i other low (by omega) found

theorem OpenAt.not_succ (plain : ¬ NamesError line) (spoken : ¬ Remark line) (c : Nat)
    (candidate : Text) : ¬ OpenAt lines (n + 1) c candidate := by
  intro still
  rcases (OpenAt.succ_iff here).1 still with ⟨-, -, named⟩ | ⟨-, -, remark⟩
  · exact plain named
  · exact spoken remark

/-! ### One line -/

/-- A line settles the windows that end with it; all others are as they were. -/
theorem Account.succ {windows : List Window} {records : List Diagnostic}
    (account : Account skip lines n windows records)
    (settled : ∀ c candidate diagnostic, Makes lines ⟨c, n⟩ diagnostic candidate line →
      PassedOver skip windows c) : Account skip lines (n + 1) windows records := by
  refine ⟨account.separate, account.recorded, ?_⟩
  rintro ⟨c, x⟩ diagnostic ⟨candidate, context, makes⟩ above
  by_cases last : x = n
  · subst last
    have same : line = context := Option.some.inj (here.symm.trans makes.here)
    exact .inr (settled c candidate diagnostic (same ▸ makes))
  · have before : x < n := by
      have : x < n + 1 := above
      omega
    exact account.complete ⟨c, x⟩ diagnostic ⟨candidate, context, makes⟩ before

theorem Account.succ_of_not_closing {windows : List Window} {records : List Diagnostic}
    (account : Account skip lines n windows records) (other : NamesError line ∨ Remark line) :
    Account skip lines (n + 1) windows records := by
  apply account.succ here
  intro c candidate diagnostic makes
  rcases other with named | remark
  · exact absurd named makes.closing.1
  · exact absurd remark makes.closing.2

section Moves
variable {windows : List Window} {records : List Diagnostic}
  (account : Account skip lines n windows records)
include account

theorem moves_passing {left : Nat} (stands : Stands skip lines n windows (.searching (left + 1))) :
    Account skip lines (n + 1) windows records ∧
      Stands skip lines (n + 1) windows (.searching left) := by
  obtain ⟨ended, passing, closed⟩ := stands
  have now : PassedOver skip windows n := passing n (Nat.le_refl n) (by omega)
  refine ⟨account.succ here fun c candidate _ makes => closed c candidate makes.waiting, ?_, ?_, ?_⟩
  · intro window member
    have := ended window member
    omega
  · intro i low high
    exact passing i (by omega) (by omega)
  · intro c candidate waiting
    rcases (OpenAt.succ_iff here).1 waiting with ⟨rfl, -, -⟩ | ⟨before, -⟩
    · exact now
    · exact closed c candidate before

theorem moves_opening (named : NamesError line)
    (ended : ∀ window ∈ windows, window.context + skip < n) :
    Account skip lines (n + 1) windows records ∧
      Stands skip lines (n + 1) windows (.holding line) := by
  refine ⟨account.succ_of_not_closing here (.inl named), n, ?_, ended⟩
  exact (OpenAt.succ_iff here).2 (.inl ⟨rfl, rfl, named⟩)

theorem moves_idle (plain : ¬ NamesError line)
    (stands : Stands skip lines n windows (.searching 0)) :
    Account skip lines (n + 1) windows records ∧
      Stands skip lines (n + 1) windows (.searching 0) := by
  obtain ⟨ended, -, closed⟩ := stands
  refine ⟨account.succ here fun c candidate _ makes => closed c candidate makes.waiting, ?_, ?_, ?_⟩
  · intro window member
    exact Nat.lt_succ_of_lt (ended window member)
  · intro i low high
    omega
  · intro c candidate waiting
    rcases (OpenAt.succ_iff here).1 waiting with ⟨-, -, named⟩ | ⟨before, -⟩
    · exact absurd named plain
    · exact closed c candidate before

section Holding
variable {c : Nat} {candidate : Text} (waiting : OpenAt lines n c candidate)
  (ended : ∀ window ∈ windows, window.context + skip < c) (plain : ¬ NamesError line)
include waiting ended plain

theorem moves_waiting (remark : Remark line) :
    Account skip lines (n + 1) windows records ∧
      Stands skip lines (n + 1) windows (.holding candidate) := by
  refine ⟨account.succ_of_not_closing here (.inr remark), c, ?_, ended⟩
  exact (OpenAt.succ_iff here).2 (.inr ⟨waiting, plain, remark⟩)

theorem moves_failing (spoken : ¬ Remark line)
    (failed : ∀ diagnostic, Swift.read candidate (trim line) ≠ .ok diagnostic) :
    Account skip lines (n + 1) windows records ∧
      Stands skip lines (n + 1) windows (.searching 0) := by
  refine ⟨account.succ here ?_, ?_, ?_, ?_⟩
  · intro d other diagnostic makes
    obtain ⟨-, rfl⟩ := waiting.unique makes.waiting
    exact absurd makes.read (failed diagnostic)
  · intro window member
    have before := ended window member
    have above := waiting.above
    omega
  · intro i low high
    omega
  · intro d other still
    exact absurd still (OpenAt.not_succ here plain spoken d other)

theorem moves_reading (spoken : ¬ Remark line) {diagnostic : Diagnostic}
    (success : Swift.read candidate (trim line) = .ok diagnostic) :
    Account skip lines (n + 1) (windows ++ [⟨c, n⟩]) (records ++ [diagnostic]) ∧
      Stands skip lines (n + 1) (windows ++ [⟨c, n⟩]) (.searching skip) := by
  have makes : MakesRecord lines ⟨c, n⟩ diagnostic :=
    ⟨candidate, line, waiting, here, ⟨plain, spoken⟩, success⟩
  refine ⟨account.concat waiting ended makes, ?_, ?_, ?_⟩
  · intro window member
    rcases List.mem_append.1 member with old | new
    · have before := ended window old
      have above := waiting.above
      omega
    · obtain rfl := List.mem_singleton.1 new
      show n + skip < n + 1 + skip
      omega
  · intro i low high
    refine ⟨⟨c, n⟩, List.mem_append_right _ (List.mem_singleton_self _), ?_, ?_⟩
    · show n < i
      omega
    · show i ≤ n + skip
      omega
  · intro d other still
    exact absurd still (OpenAt.not_succ here plain spoken d other)

end Holding

end Moves

end Step

/-! ### Runs -/

/-- The account of the lines above line `n` together with the state in which they leave the pass. -/
def Progress (skip : Nat) (lines : List Text) (n : Nat) (state : State)
    (records : List Diagnostic) : Prop :=
  ∃ windows, Account skip lines n windows records ∧ Stands skip lines n windows state

theorem progress_zero (skip : Nat) (lines : List Text) :
    Progress skip lines 0 (.searching 0) [] := by
  refine ⟨[], ⟨List.Pairwise.nil, .nil, ?_⟩, ?_, ?_, ?_⟩
  · intro window diagnostic _ above
    exact absurd above (Nat.not_lt_zero _)
  · intro window member
    cases member
  · intro i low high
    omega
  · intro c candidate waiting
    exact absurd waiting.above (Nat.not_lt_zero c)

theorem progress_step {skip n : Nat} {lines : List Text} {line : Text} {state : State}
    {records : List Diagnostic} (here : lines[n]? = some line)
    (progress : Progress skip lines n state records) :
    Progress skip lines (n + 1) (step skip state line).2
      (records ++ (step skip state line).1.filterMap Outcome.accepted?) := by
  obtain ⟨windows, account, stands⟩ := progress
  -- the line is passed over, or shown to the search, or to the candidate that waits
  match state with
  | .searching (left + 1) =>
      simp only [step, List.filterMap_nil, List.append_nil]
      exact ⟨windows, moves_passing here account stands⟩
  | .searching 0 =>
      by_cases candidate : Swift.isCandidate line = true
      · simp only [step, candidate, ↓reduceIte, List.filterMap_nil, List.append_nil]
        exact ⟨windows, moves_opening here account (isCandidate_iff.1 candidate) stands.1⟩
      · simp only [step, candidate, Bool.false_eq_true, ↓reduceIte, List.filterMap_nil,
          List.append_nil]
        exact ⟨windows, moves_idle here account (mt isCandidate_iff.2 candidate) stands⟩
  | .holding pending =>
      obtain ⟨c, waiting, ended⟩ := stands
      by_cases candidate : Swift.isCandidate line = true
      · have before : ∀ window ∈ windows, window.context + skip < n := fun window member =>
          Nat.lt_trans (ended window member) waiting.above
        simp only [step, candidate, ↓reduceIte, List.filterMap_cons, Outcome.accepted?,
          List.filterMap_nil, List.append_nil]
        exact ⟨windows, moves_opening here account (isCandidate_iff.1 candidate) before⟩
      · have plain : ¬ NamesError line := mt isCandidate_iff.2 candidate
        by_cases remark : isRemark line = true
        · simp only [step, candidate, remark, Bool.false_eq_true, ↓reduceIte, List.filterMap_nil,
            List.append_nil]
          exact ⟨windows, moves_waiting here account waiting ended plain (isRemark_iff.1 remark)⟩
        · have spoken : ¬ Remark line := mt isRemark_iff.2 remark
          have reading := Swift.read_trim pending line
          simp only [step, candidate, remark, Bool.false_eq_true, ↓reduceIte]
          cases read : Swift.read pending line with
          | error failure =>
              simp only [Attempt.accepted?, Outcome.accepted?, Option.isSome_none,
                Bool.false_eq_true, ↓reduceIte, List.filterMap_cons, List.filterMap_nil,
                List.append_nil]
              refine ⟨windows, moves_failing here account waiting ended plain spoken ?_⟩
              intro diagnostic success
              rw [reading, read] at success
              cases success
          | ok diagnostic =>
              simp only [Attempt.accepted?, Outcome.accepted?, Option.isSome_some, ↓reduceIte,
                List.filterMap_cons, List.filterMap_nil]
              exact ⟨_, moves_reading here account waiting ended plain spoken
                (reading.trans read)⟩

theorem progress_run (skip : Nat) (lines : List Text) {n : Nat} (inside : n ≤ lines.length) :
    Progress skip lines n (after skip (.searching 0) (lines.take n))
      (recordsFrom skip (.searching 0) (lines.take n)) := by
  induction n with
  | zero =>
      rw [List.take_zero, recordsFrom_nil]
      exact progress_zero skip lines
  | succ n ih =>
      have here : lines[n]? = some lines[n] := List.getElem?_eq_getElem inside
      rw [recordsFrom_take_succ skip _ here, after_take_succ skip _ here]
      exact progress_step here (ih (by omega))

theorem exists_window_of_mem {skip : Nat} {lines : List Text} {diagnostic : Diagnostic}
    (found : diagnostic ∈ (outcomes skip lines).filterMap Outcome.accepted?) :
    ∃ window, MakesRecord lines window diagnostic := by
  obtain ⟨windows, account, -⟩ := progress_run skip lines (Nat.le_refl lines.length)
  rw [List.take_length] at account
  obtain ⟨i, inside, rfl⟩ := List.mem_iff_getElem.1 found
  have matched := account.recorded
  have within : i < windows.length := matched.length_eq ▸ inside
  exact ⟨windows[i], matched.get within inside⟩

/-- The records of a Swift log are those of its windows, in their order.  Behind the second line of
each window some lines are passed over before the next one starts, and what is not read starts in
these lines. -/
theorem records_of_windows (skip : Nat) (lines : List Text) :
    ∃ windows : List Window,
      (windows.Pairwise fun window next => window.context + skip < next.candidate) ∧
      List.Forall₂ (MakesRecord lines) windows
        ((outcomes skip lines).filterMap Outcome.accepted?) ∧
      ∀ window diagnostic, MakesRecord lines window diagnostic →
        window ∈ windows ∨ PassedOver skip windows window.candidate := by
  obtain ⟨windows, account, -⟩ := progress_run skip lines (Nat.le_refl lines.length)
  rw [List.take_length] at account
  refine ⟨windows, account.separate, account.recorded, ?_⟩
  rintro window diagnostic ⟨candidate, context, makes⟩
  have inside : window.context < lines.length := (List.getElem?_eq_some_iff.1 makes.here).1
  exact account.complete window diagnostic ⟨candidate, context, makes⟩ inside

end SwiftPass

end BuildLog
