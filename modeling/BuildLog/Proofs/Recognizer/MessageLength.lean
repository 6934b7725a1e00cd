import BuildLog.Proofs.Text.Trimming
import BuildLog.Recognizer.Runners
import BuildLog.Settings.Sources

/-!
# How long a shortened message is

Of a message above the limit the start and the end are kept, with an ellipsis between them.  The
limit and the two lengths are settings of their own.  The result is no longer than the message, and
its two parts do not overlap, exactly when the message has room for both parts and the ellipsis.
Every message has it when the limit is at least two above the sum of the lengths; below that, as
when the limit alone is lowered, some messages grow.
-/

set_option autoImplicit false

namespace BuildLog

open Text

/-- The first and the last characters of a text are parts that do not overlap exactly when there is
room for both. -/
theorem Text.exists_middle_iff (t : Text) (front back : Nat) :
    (∃ middle, t = t.take front ++ middle ++ t.drop (t.length - back)) ↔
      min front t.length + min back t.length ≤ t.length := by
  constructor
  · rintro ⟨middle, split⟩
    have lengths := congrArg List.length split
    simp only [List.length_append, List.length_take, List.length_drop] at lengths
    omega
  · intro room
    have start : (t.take (t.length - back)).take front = t.take front := by
      rw [List.take_take]
      by_cases fits : front ≤ t.length - back
      · rw [Nat.min_eq_left fits]
      · -- the start is the whole text, so nothing is taken from its end
        have whole : t.length ≤ min front (t.length - back) := by omega
        rw [List.take_of_length_le whole, List.take_of_length_le (by omega)]
    refine ⟨(t.take (t.length - back)).drop front, ?_⟩
    rw [← start, List.take_append_drop, List.take_append_drop]

namespace TestRunner

def keptStart (settings : Settings) (message : Text) : Text :=
  (trim message).take settings.jasmineHead

def keptEnd (settings : Settings) (message : Text) : Text :=
  (trim message).drop ((trim message).length - settings.jasmineTail)

structure Shortens (settings : Settings) (message : Text) : Prop where
  noLonger : (shorten settings message).length ≤ (trim message).length
  /-- No character of a long message is kept twice. -/
  apart : settings.jasmineMaxMessage < (trim message).length →
    ∃ middle, trim message = keptStart settings message ++ middle ++ keptEnd settings message

section Lengths
variable {settings : Settings} {message : Text}

theorem shorten_of_le (short : (trim message).length ≤ settings.jasmineMaxMessage) :
    shorten settings message = trim message :=
  if_pos short

theorem shorten_of_lt (long : settings.jasmineMaxMessage < (trim message).length) :
    shorten settings message =
      keptStart settings message ++ "...".toList ++ keptEnd settings message :=
  if_neg (Nat.not_le.2 long)

theorem length_shorten_of_lt (long : settings.jasmineMaxMessage < (trim message).length) :
    (shorten settings message).length =
      min settings.jasmineHead (trim message).length + 3 +
        min settings.jasmineTail (trim message).length := by
  have points : "...".toList.length = 3 := by decide
  rw [shorten_of_lt long, List.length_append, List.length_append, points, keptStart, keptEnd,
    List.length_take, List.length_drop]
  omega

end Lengths

theorem shortens_iff {settings : Settings} {message : Text} :
    Shortens settings message ↔
      (trim message).length ≤ settings.jasmineMaxMessage ∨
        settings.jasmineHead + 3 + settings.jasmineTail ≤ (trim message).length := by
  by_cases short : (trim message).length ≤ settings.jasmineMaxMessage
  · have whole : Shortens settings message :=
      ⟨Nat.le_of_eq (congrArg List.length (shorten_of_le short)),
        fun long => absurd short (Nat.not_le.2 long)⟩
    exact ⟨fun _ => .inl short, fun _ => whole⟩
  · have long := Nat.not_le.1 short
    have length := length_shorten_of_lt long
    constructor
    · intro shortens
      have noLonger := shortens.noLonger
      omega
    · intro fits
      refine ⟨by omega, fun _ => ?_⟩
      apply (exists_middle_iff (trim message) _ _).2
      omega

theorem forall_shortens_iff {settings : Settings} :
    (∀ message, Shortens settings message) ↔
      settings.jasmineHead + settings.jasmineTail + 2 ≤ settings.jasmineMaxMessage := by
  constructor
  · intro all
    -- the shortest message above the limit
    have trimmed : trim (List.replicate (settings.jasmineMaxMessage + 1) 'x') =
        List.replicate (settings.jasmineMaxMessage + 1) 'x' := by
      have letters : ∀ c ∈ List.replicate (settings.jasmineMaxMessage + 1) 'x',
          isBlank c = false := by
        intro c member
        rw [List.eq_of_mem_replicate member]
        decide
      apply trim_eq_self
      · intro c rest split
        exact letters c (split ▸ List.mem_cons_self)
      · intro front c split
        exact letters c (split ▸ List.mem_append_right front (List.mem_singleton_self c))
    have room := shortens_iff.1 (all (List.replicate (settings.jasmineMaxMessage + 1) 'x'))
    rw [trimmed, List.length_replicate] at room
    omega
  · intro fits message
    rw [shortens_iff]
    omega

/-- Shortening a message does not lengthen it and keeps no character twice exactly when the message
is within the limit or has room for both ends and the ellipsis; it is so for every message exactly
when the limit is at least two above the lengths of the two ends.  Settings from the environment
have the usual lengths whatever their limit is, so for them the limit must be 98 or more. -/
theorem shortens_exactly_with_room (settings : Settings) :
    (∀ message, Shortens settings message ↔
        (trim message).length ≤ settings.jasmineMaxMessage ∨
          settings.jasmineHead + 3 + settings.jasmineTail ≤ (trim message).length) ∧
      ((∀ message, Shortens settings message) ↔
        settings.jasmineHead + settings.jasmineTail + 2 ≤ settings.jasmineMaxMessage) ∧
      ∀ environment : Environment, (∀ message, Shortens environment.settings message) ↔
        98 ≤ environment.settings.jasmineMaxMessage :=
  ⟨fun _ => shortens_iff, forall_shortens_iff, fun _ => forall_shortens_iff⟩

/-- With a lower limit and the usual lengths a message is followed by most of itself. -/
theorem message_repeated_under_lower_limit :
    let settings := Environment.settings { jasmineMaxMessage := some "10".toList }
    let message := "Expected 1 to be 2.".toList
    settings = { jasmineMaxMessage := 10 } ∧
      shorten settings message = "Expected 1 to be 2....ected 1 to be 2.".toList ∧
      (trim message).length = 19 ∧ (shorten settings message).length = 38 ∧
      (¬ ∃ middle, trim message =
        keptStart settings message ++ middle ++ keptEnd settings message) ∧
      ¬ Shortens settings message := by
  intro settings message
  refine ⟨by decide, by decide, by decide, by decide, ?_, ?_⟩
  · rw [keptStart, keptEnd, exists_middle_iff]
    decide
  · rw [shortens_iff]
    decide

end TestRunner

end BuildLog
