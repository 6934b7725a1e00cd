import BuildLog.Extraction
import BuildLog.Proofs.Pass.SwiftWindows

/-!
# What becomes of the candidates of a Swift log

Every candidate that is read comes to one end: it is replaced by the next one, it is read together
with its line and makes a record or fails, or the log ends before its line has come.  The outcomes of
a run tell these ends one by one in the order of the candidates, so records and events add up to the
candidates.  Candidates are not read while lines are passed over, and these are the lines right
behind the one that has completed a record.
-/

set_option autoImplicit false

namespace BuildLog

open Text

namespace SwiftPass

def State.left : State → Nat
  | .searching left => left
  | .holding _ => 0

def State.waiting : State → List Text
  | .searching _ => []
  | .holding candidate => [candidate]

def Outcome.candidate : Outcome → Text
  | .replaced candidate => candidate
  | .read candidate _ => candidate
  | .unpaired candidate => candidate

/-- The line itself when it is a candidate and is not passed over. -/
def entering (state : State) (line : Text) : List Text :=
  if state.left = 0 ∧ Swift.isCandidate line then [line] else []

def candidatesFrom (skip : Nat) (state : State) : List Text → List Text
  | [] => []
  | line :: lines => entering state line ++ candidatesFrom skip (step skip state line).2 lines

/-- The candidates of a log in their order, without those in lines that are passed over. -/
def candidates (skip : Nat) (lines : List Text) : List Text :=
  candidatesFrom skip (.searching 0) lines

/-! ## Outcomes and candidates -/

/-- What one line settles and what then waits is what waited before and what enters. -/
theorem map_candidate_step (skip : Nat) (state : State) (line : Text) :
    (step skip state line).1.map Outcome.candidate ++ (step skip state line).2.waiting =
      state.waiting ++ entering state line := by
  cases state with
  | searching left =>
      cases left with
      | zero =>
          by_cases candidate : Swift.isCandidate line = true
          · simp [step, entering, State.waiting, State.left, candidate]
          · simp [step, entering, State.waiting, State.left, candidate]
      | succ left => simp [step, entering, State.waiting, State.left]
  | holding pending =>
      by_cases candidate : Swift.isCandidate line = true
      · simp [step, entering, State.waiting, State.left, Outcome.candidate, candidate]
      · by_cases remark : isRemark line = true
        · simp [step, entering, State.waiting, candidate, remark]
        · simp [step, entering, State.waiting, Outcome.candidate, candidate, remark]

theorem map_candidate_finish (state : State) :
    (finish state).map Outcome.candidate = state.waiting := by
  cases state with
  | searching left => rfl
  | holding candidate => rfl

theorem map_candidate_outcomesFrom (skip : Nat) (state : State) (lines : List Text) :
    (outcomesFrom skip state lines).map Outcome.candidate =
      state.waiting ++ candidatesFrom skip state lines := by
  induction lines generalizing state with
  | nil =>
      rw [candidatesFrom, List.append_nil]
      exact map_candidate_finish state
  | cons line lines ih =>
      have one := map_candidate_step skip state line
      rw [outcomesFrom, List.map_append, ih, candidatesFrom, ← List.append_assoc, one,
        List.append_assoc]

/-! ## Outcomes and events -/

def tally (message : Text) (events : List Event) : Nat :=
  events.countP fun event => event.message = message

def replacedMessage : Text := "Xcode candidate replaced before pairing".toList

def droppedMessage : Text := "Xcode candidate dropped".toList

def unpairedMessage : Text := "Xcode candidate left without context".toList

theorem tally_append (message : Text) (first second : List Event) :
    tally message (first ++ second) = tally message first + tally message second :=
  List.countP_append

theorem tally_cons (message : Text) (event : Event) (events : List Event) :
    tally message (event :: events) =
      tally message events + if event.message = message then 1 else 0 := by
  simp [tally, List.countP_cons]

/-- Candidates are accounted for when each of them has made a record or is told of by one event, and
one candidate at most is left over. -/
structure Accounted (candidates : List Text) (records : List Diagnostic) (events : List Event) :
    Prop where
  total : candidates.length = records.length + tally replacedMessage events +
    tally droppedMessage events + tally unpairedMessage events
  leftOver : tally unpairedMessage events ≤ 1

theorem message_candidateReplaced (candidate : Text) :
    (Event.candidateReplaced candidate).message = replacedMessage := rfl

theorem message_candidateDropped (failure : Failure) (candidate : Text) :
    (Event.candidateDropped failure candidate).message = droppedMessage := rfl

theorem message_candidateUnpaired (candidate : Text) :
    (Event.candidateUnpaired candidate).message = unpairedMessage := rfl

theorem replaced_ne_dropped : replacedMessage ≠ droppedMessage := by
  decide

theorem replaced_ne_unpaired : replacedMessage ≠ unpairedMessage := by
  decide

theorem dropped_ne_unpaired : droppedMessage ≠ unpairedMessage := by
  decide

theorem length_eq_records_add_tallies (found : List Outcome) :
    found.length = (found.filterMap Outcome.accepted?).length +
      tally replacedMessage (found.filterMap Event.ofCandidate?) +
      tally droppedMessage (found.filterMap Event.ofCandidate?) +
      tally unpairedMessage (found.filterMap Event.ofCandidate?) := by
  induction found with
  | nil => rfl
  | cons outcome found ih =>
      cases outcome with
      | replaced candidate =>
          simp only [List.filterMap_cons, Outcome.accepted?, Event.ofCandidate?, tally_cons,
            message_candidateReplaced, replaced_ne_dropped, replaced_ne_unpaired, ↓reduceIte,
            List.length_cons]
          omega
      | read candidate attempt =>
          cases attempt with
          | ok diagnostic =>
              simp only [List.filterMap_cons, Outcome.accepted?, Event.ofCandidate?,
                Attempt.accepted?, Attempt.dropped?, Option.map_none, List.length_cons]
              omega
          | error failure =>
              simp only [List.filterMap_cons, Outcome.accepted?, Event.ofCandidate?,
                Attempt.accepted?, Attempt.dropped?, Option.map_some, tally_cons,
                message_candidateDropped, replaced_ne_dropped.symm, dropped_ne_unpaired,
                ↓reduceIte, List.length_cons]
              omega
      | unpaired candidate =>
          simp only [List.filterMap_cons, Outcome.accepted?, Event.ofCandidate?, tally_cons,
            message_candidateUnpaired, replaced_ne_unpaired.symm, dropped_ne_unpaired.symm,
            ↓reduceIte, List.length_cons]
          omega

theorem tally_unpaired_step (skip : Nat) (state : State) (line : Text) :
    tally unpairedMessage ((step skip state line).1.filterMap Event.ofCandidate?) = 0 := by
  cases state with
  | searching left =>
      cases left with
      | zero => rfl
      | succ left => rfl
  | holding pending =>
      rw [step]
      split
      · simp only [List.filterMap_cons, List.filterMap_nil, Event.ofCandidate?, tally_cons,
          message_candidateReplaced, replaced_ne_unpaired, ↓reduceIte]
        rfl
      · split
        · rfl
        · cases Swift.read pending line with
          | ok diagnostic => rfl
          | error failure =>
              simp only [List.filterMap_cons, List.filterMap_nil, Event.ofCandidate?,
                Attempt.dropped?, Option.map_some, tally_cons, message_candidateDropped,
                dropped_ne_unpaired, ↓reduceIte]
              rfl

theorem tally_unpaired_outcomesFrom_le_one (skip : Nat) (state : State) (lines : List Text) :
    tally unpairedMessage ((outcomesFrom skip state lines).filterMap Event.ofCandidate?) ≤ 1 := by
  induction lines generalizing state with
  | nil =>
      cases state with
      | searching left => exact Nat.zero_le 1
      | holding candidate => exact Nat.le_refl 1
  | cons line lines ih =>
      rw [outcomesFrom, List.filterMap_append, tally_append, tally_unpaired_step, Nat.zero_add]
      exact ih _

/-! ## Lines that are passed over -/

def CompletesAt (skip : Nat) (lines : List Text) (i : Nat) : Prop :=
  ∃ line, lines[i]? = some line ∧
    (step skip (after skip (.searching 0) (lines.take i)) line).1.filterMap Outcome.accepted? ≠ []

theorem left_step (skip : Nat) (state : State) (line : Text) :
    ((step skip state line).1.filterMap Outcome.accepted? = [] ∧
        (step skip state line).2.left = state.left - 1) ∨
      ((step skip state line).1.filterMap Outcome.accepted? ≠ [] ∧ state.left = 0 ∧
        (step skip state line).2.left = skip) := by
  cases state with
  | searching left =>
      cases left with
      | zero =>
          refine .inl ⟨rfl, ?_⟩
          rw [step]
          split
          · rfl
          · rfl
      | succ left => exact .inl ⟨rfl, rfl⟩
  | holding pending =>
      rw [step]
      split
      · exact .inl ⟨rfl, rfl⟩
      · split
        · exact .inl ⟨rfl, rfl⟩
        · cases Swift.read pending line with
          | ok diagnostic => exact .inr ⟨List.cons_ne_nil _ _, rfl, rfl⟩
          | error failure => exact .inl ⟨rfl, rfl⟩

/-- How many lines are still passed over says where the last record was completed. -/
theorem left_after (skip : Nat) (lines : List Text) {i : Nat} (within : i ≤ lines.length) :
    let left := (after skip (.searching 0) (lines.take i)).left
    (left = 0 ∨ ∃ j, j < i ∧ CompletesAt skip lines j ∧ i + left = j + 1 + skip) ∧
      ∀ j, j < i → CompletesAt skip lines j → j + 1 + skip ≤ i + left := by
  induction i with
  | zero => exact ⟨.inl rfl, fun j below => absurd below (Nat.not_lt_zero j)⟩
  | succ i ih =>
      intro left
      obtain ⟨line, here⟩ : ∃ line, lines[i]? = some line :=
        ⟨lines[i], List.getElem?_eq_getElem within⟩
      obtain ⟨reason, bound⟩ := ih (Nat.le_of_lt within)
      have next : left = (step skip (after skip (.searching 0) (lines.take i)) line).2.left :=
        congrArg State.left (after_take_succ skip (.searching 0) here)
      rcases left_step skip (after skip (.searching 0) (lines.take i)) line with
        ⟨silent, less⟩ | ⟨completes, idle, whole⟩
      · -- the line completes nothing, so there is one line less to pass over
        have notHere : ¬ CompletesAt skip lines i := by
          rintro ⟨other, found, something⟩
          cases here.symm.trans found
          exact something silent
        constructor
        · rcases reason with idle | ⟨j, below, completed, count⟩
          · exact .inl (by omega)
          · by_cases skipping : left = 0
            · exact .inl skipping
            · exact .inr ⟨j, by omega, completed, by omega⟩
        · intro j below completed
          have other : j ≠ i := fun same => notHere (same ▸ completed)
          have before := bound j (by omega) completed
          omega
      · -- the line completes a record, and the count starts again
        constructor
        · exact .inr ⟨i, Nat.lt_succ_self i, ⟨line, here, completes⟩, by omega⟩
        · intro j below completed
          by_cases last : j = i
          · omega
          · have before := bound j (by omega) completed
            omega

theorem left_after_ne_zero_iff (skip : Nat) (lines : List Text) {i : Nat}
    (within : i ≤ lines.length) :
    (after skip (.searching 0) (lines.take i)).left ≠ 0 ↔
      ∃ j, j < i ∧ i ≤ j + skip ∧ CompletesAt skip lines j := by
  obtain ⟨reason, bound⟩ := left_after skip lines within
  constructor
  · intro skipping
    obtain ⟨j, below, completed, count⟩ := reason.resolve_left skipping
    exact ⟨j, below, by omega, completed⟩
  · rintro ⟨j, below, near, completed⟩
    have before := bound j below completed
    omega

/-! ## Runs -/

theorem accounted_outcomes (skip : Nat) (lines : List Text) :
    Accounted (candidates skip lines) ((outcomes skip lines).filterMap Outcome.accepted?)
      ((outcomes skip lines).filterMap Event.ofCandidate?) := by
  have ends := map_candidate_outcomesFrom skip (.searching 0) lines
  refine ⟨?_, tally_unpaired_outcomesFrom_le_one skip (.searching 0) lines⟩
  rw [← length_eq_records_add_tallies, ← List.length_map (f := Outcome.candidate)]
  exact (congrArg List.length ends).symm

theorem Accounted.concat_extracted {candidates : List Text} {records : List Diagnostic}
    {events : List Event} (accounted : Accounted candidates records events) (phase : Phase)
    (count : Nat) : Accounted candidates records (events ++ [.extracted phase count]) := by
  have silent : ∀ message, message = replacedMessage ∨ message = droppedMessage ∨
      message = unpairedMessage → tally message [.extracted phase count] = 0 := by
    have other : ∀ message, (Event.extracted phase count).message ≠ message →
        tally message [.extracted phase count] = 0 := by
      intro message different
      rw [tally_cons, if_neg different]
      rfl
    rintro message (rfl | rfl | rfl)
    · exact other _ (by decide : "Extracted build errors".toList ≠ replacedMessage)
    · exact other _ (by decide : "Extracted build errors".toList ≠ droppedMessage)
    · exact other _ (by decide : "Extracted build errors".toList ≠ unpairedMessage)
  refine ⟨?_, ?_⟩
  · rw [tally_append, tally_append, tally_append, silent _ (.inl rfl), silent _ (.inr (.inl rfl)),
      silent _ (.inr (.inr rfl))]
    exact accounted.total
  · rw [tally_append, silent _ (.inr (.inr rfl))]
    exact accounted.leftOver

/-- Each candidate that is read comes to one end, and the ends come in the order of the candidates;
so the records and the events of a run add up to the candidates, and at most one is left over when
the log ends.  Candidates are read unless a record has been completed just above them. -/
theorem candidates_accounted (settings : Settings) (lines : List Text) :
    let skip := settings.xcodeContextSkip
    let found := outcomes skip lines
    (∀ i, i ≤ lines.length → ((after skip (.searching 0) (lines.take i)).left ≠ 0 ↔
        ∃ j, j < i ∧ i ≤ j + skip ∧ CompletesAt skip lines j)) ∧
      found.map Outcome.candidate = candidates skip lines ∧
      Accounted (candidates skip lines) (found.filterMap Outcome.accepted?)
        (found.filterMap Event.ofCandidate?) ∧
      ∀ capture : Capture, capture.isSwiftLog settings = true → capture.lines = lines →
        Accounted (candidates skip lines) (Extraction.traced settings capture).1.diagnostics
          (Extraction.traced settings capture).2 := by
  intro skip found
  have accounted := accounted_outcomes skip lines
  refine ⟨fun i within => left_after_ne_zero_iff skip lines within,
    map_candidate_outcomesFrom skip (.searching 0) lines, accounted, ?_⟩
  intro capture swift same
  subst same
  rw [Extraction.traced, if_pos swift]
  exact accounted.concat_extracted .xcode _

/-- One candidate is replaced, one makes a record, one fails and one is left over; the candidate
below the record is passed over. -/
theorem candidates_accounted_every_end :
    let lines := ["Building xArchive".toList, "/p/A.swift:1:1: error: one".toList,
      "/p/B.swift:2:2: error: two".toList, "(note)".toList, "let b = 1".toList,
      "/p/C.swift:3:3: error: restated".toList, "    ^".toList,
      "/p/D.swift:x:4: error: three".toList, "let d = 1".toList,
      "/p/E.swift:5:5: error: four".toList]
    let capture : Capture := { logs := lines }
    let run := Extraction.traced {} capture
    capture.isSwiftLog {} = true ∧ capture.lines = lines ∧
      candidates 2 lines = ["/p/A.swift:1:1: error: one".toList,
        "/p/B.swift:2:2: error: two".toList, "/p/D.swift:x:4: error: three".toList,
        "/p/E.swift:5:5: error: four".toList] ∧
      run.1.diagnostics = [⟨.xcode, "/p/B.swift".toList, 1, 1, "two let b = 1".toList⟩] ∧
      Accounted (candidates 2 lines) run.1.diagnostics run.2 ∧
      5 ≤ lines.length ∧ ((after 2 (.searching 0) (lines.take 5)).left ≠ 0 ↔
        ∃ j, j < 5 ∧ 5 ≤ j + 2 ∧ CompletesAt 2 lines j) := by
  intro lines capture run
  have swift : capture.isSwiftLog {} = true := by decide +kernel
  have same : capture.lines = lines := by decide +kernel
  have within : 5 ≤ lines.length := by decide
  obtain ⟨passedOver, -, -, inRun⟩ := candidates_accounted {} lines
  exact ⟨swift, same, by decide, by decide +kernel, inRun capture swift same, within,
    passedOver 5 within⟩

end SwiftPass

end BuildLog
