import BuildLog.Proofs.Recognizer.PrintedMessages
import BuildLog.Recognizer.Runners

/-!
# How long a suite took

A slow suite has its duration behind its path, in parentheses.  A text is recognized as a duration
exactly when it is one in print, and a duration has one opening parenthesis only.  So a path is cut
in front of the last duration of its line and keeps all parentheses and durations of its own.
-/

set_option autoImplicit false

namespace BuildLog

open Text

namespace TestRunner

/-- A number without sign or point, in the digits of any script. -/
structure Digits where
  text : Text
  decimal : text.all isDecimalDigit = true
  nonempty : text ≠ []

/-- How long a suite took, in print: as in ` (5.2 s)` or ` (812 ms)`, with any blanks in front of it
and in front of the unit. -/
structure Duration where
  lead : Text
  whole : Digits
  fraction : Option Digits
  gap : Text
  unit : Text
  blankLead : isBlankLine lead = true
  blankGap : isBlankLine gap = true
  known : unit = "s".toList ∨ unit = "ms".toList

def behindPoint : Option Digits → Text
  | none => []
  | some digits => '.' :: digits.text

namespace Duration

section Render
variable (duration : Duration)

def ending : Text :=
  duration.gap ++ (duration.unit ++ [')'])

def inside : Text :=
  duration.whole.text ++ (behindPoint duration.fraction ++ duration.ending)

def render : Text :=
  duration.lead ++ '(' :: duration.inside

end Render

end Duration

/-! ## Reading a duration -/

theorem Digits.span_append (digits : Digits) {rest : Text}
    (stops : ∀ c more, rest = c :: more → isDecimalDigit c = false) :
    (digits.text ++ rest).takeWhile isDecimalDigit = digits.text ∧
      (digits.text ++ rest).dropWhile isDecimalDigit = rest := by
  have decimal := List.all_eq_true.1 digits.decimal
  rw [List.takeWhile_append_of_pos decimal, List.dropWhile_append_of_pos decimal]
  cases rest with
  | nil => simp
  | cons c more => simp [stops c more rfl]

theorem exists_digits {t : Text} (some : t.takeWhile isDecimalDigit ≠ []) :
    ∃ digits : Digits, t = digits.text ++ t.dropWhile isDecimalDigit :=
  ⟨⟨t.takeWhile isDecimalDigit, List.all_takeWhile, some⟩, List.takeWhile_append_dropWhile.symm⟩

theorem exists_of_afterDuration? {t rest : Text} (found : afterDuration? t = some rest) :
    ∃ (whole : Digits) (fraction : Option Digits), t = whole.text ++ (behindPoint fraction ++ rest) := by
  unfold afterDuration? at found
  split at found
  · cases found
  · next numbered =>
      obtain ⟨whole, split⟩ := exists_digits numbered
      split at found
      · next behind point =>
          split at found
          · cases found
          · next numberedBehind =>
              cases found
              obtain ⟨fraction, splitBehind⟩ := exists_digits numberedBehind
              refine ⟨whole, some fraction, ?_⟩
              rw [behindPoint, List.cons_append, ← splitBehind, ← point]
              exact split
      · cases found
        exact ⟨whole, none, split⟩

theorem Duration.not_digit_of_ending {duration : Duration} {c : Char} {more : Text}
    (split : duration.ending = c :: more) : isDecimalDigit c = false ∧ c ≠ '.' := by
  cases front : duration.gap with
  | cons d gap =>
      have same : d = c := by
        rw [ending, front, List.cons_append] at split
        exact (List.cons.inj split).1
      have blank : isBlank c = true :=
        isBlankLine_iff.1 duration.blankGap c (same ▸ front ▸ List.mem_cons_self)
      constructor
      · cases digit : isDecimalDigit c with
        | false => rfl
        | true => exact absurd (CodeLabel.not_isBlank_of_isDecimalDigit digit) (by simp [blank])
      · rintro rfl
        exact absurd blank (by decide)
  | nil =>
      rw [ending, front, List.nil_append] at split
      rcases duration.known with known | known
      · rw [known] at split
        obtain ⟨rfl, -⟩ := List.cons.inj split
        decide
      · rw [known] at split
        obtain ⟨rfl, -⟩ := List.cons.inj split
        decide

theorem Duration.afterDuration?_inside (duration : Duration) :
    afterDuration? duration.inside = some duration.ending := by
  have digitsEnd : ∀ c more, duration.ending = c :: more → isDecimalDigit c = false :=
    fun c more split => (not_digit_of_ending split).1
  unfold afterDuration? inside
  cases duration.fraction with
  | some fraction =>
      have point : ∀ c more, behindPoint (some fraction) ++ duration.ending = c :: more →
          isDecimalDigit c = false := by
        intro c more split
        obtain ⟨rfl, -⟩ := List.cons.inj split
        decide
      obtain ⟨whole, behindWhole⟩ := duration.whole.span_append point
      obtain ⟨digits, behindDigits⟩ := fraction.span_append digitsEnd
      rw [whole, behindWhole, if_neg duration.whole.nonempty]
      simp only [behindPoint, List.cons_append, digits, behindDigits]
      exact if_neg fraction.nonempty
  | none =>
      obtain ⟨whole, behindWhole⟩ := duration.whole.span_append digitsEnd
      rw [behindPoint, List.nil_append, whole, behindWhole, if_neg duration.whole.nonempty]
      split
      · next behind point => exact absurd rfl (not_digit_of_ending point).2
      · rfl

theorem isTiming_iff {t : Text} : isTiming t = true ↔ ∃ duration : Duration, t = duration.render := by
  constructor
  · intro timed
    unfold isTiming at timed
    split at timed
    · cases timed
    · next rest found =>
        obtain ⟨inner, opened, behind⟩ := Option.bind_eq_some_iff.1 found
        obtain ⟨whole, fraction, number⟩ := exists_of_afterDuration? behind
        obtain ⟨unit, known, tail⟩ : ∃ unit : Text, (unit = "s".toList ∨ unit = "ms".toList) ∧
            trimStart rest = unit ++ [')'] := by
          rw [Bool.or_eq_true, decide_eq_true_eq, decide_eq_true_eq] at timed
          exact timed.elim (⟨_, .inl rfl, ·⟩) (⟨_, .inr rfl, ·⟩)
        obtain ⟨lead, blankLead, start⟩ := exists_blanks_trimStart t
        obtain ⟨gap, blankGap, ending⟩ := exists_blanks_trimStart rest
        refine ⟨⟨lead, whole, fraction, gap, unit, blankLead, blankGap, known⟩, ?_⟩
        rw [start, after?_eq_some_iff.1 opened, number, ending, tail]
        rfl
  · rintro ⟨duration, rfl⟩
    have opened : after? ['('] (trimStart duration.render) = some duration.inside := by
      rw [Duration.render, trimStart_append_of_solid duration.blankLead (by decide)]
      exact after?_append ['('] duration.inside
    rw [isTiming, opened, Option.bind_some, duration.afterDuration?_inside]
    rcases duration.known with known | known
    · have unit : trimStart duration.ending = "s)".toList := by
        rw [Duration.ending, known]
        exact trimStart_append_of_solid duration.blankGap (by decide) [')']
      simp [unit]
    · have unit : trimStart duration.ending = "ms)".toList := by
        rw [Duration.ending, known]
        exact trimStart_append_of_solid duration.blankGap (by decide) ['s', ')']
      simp [unit]

/-! ## Paths with a duration behind them -/

theorem Duration.not_mem_inside (duration : Duration) : '(' ∉ duration.inside := by
  have digits : ∀ digits : Digits, '(' ∉ digits.text := by
    intro digits member
    exact absurd (List.all_eq_true.1 digits.decimal '(' member) (by decide)
  have fraction : '(' ∉ behindPoint duration.fraction := by
    cases duration.fraction with
    | none => exact List.not_mem_nil
    | some fraction => simpa [behindPoint] using digits fraction
  have gap : '(' ∉ duration.gap := by
    intro member
    exact absurd (isBlankLine_iff.1 duration.blankGap '(' member) (by decide)
  have unit : '(' ∉ duration.unit := by
    rcases duration.known with known | known
    · rw [known]
      decide
    · rw [known]
      decide
  simp [inside, ending, digits, fraction, gap, unit]

/-- A duration is read from its last opening parenthesis on, so no text ends in two of them. -/
theorem Duration.lead_eq_of_render_eq {first second : Duration} {front : Text}
    (same : front ++ first.render = second.render) : front ++ first.lead = second.lead := by
  have one : cutLast? '(' (front ++ first.render) = some (front ++ first.lead, first.inside) :=
    cutLast?_eq_some_iff.2 ⟨by rw [render, List.append_assoc], first.not_mem_inside⟩
  have other : cutLast? '(' second.render = some (second.lead, second.inside) :=
    cutLast?_eq_some_iff.2 ⟨rfl, second.not_mem_inside⟩
  rw [same, other] at one
  exact (Prod.mk.inj (Option.some.inj one)).1.symm

theorem cutBefore_render {path : Text} (filled : Filled path) (duration : Duration) :
    cutBefore isTiming (path ++ duration.render) = path := by
  apply cutBefore_append (isTiming_iff.2 ⟨duration, rfl⟩) (by simp [Duration.render])
  intro ending nonempty suffix
  rw [Bool.eq_false_iff, ne_eq, isTiming_iff]
  rintro ⟨other, same⟩
  -- the longer text would start with blanks, and the path ends in none
  have lead := Duration.lead_eq_of_render_eq same
  have blank : isBlankLine ending = true := by
    rw [isBlankLine_iff]
    intro c member
    exact isBlankLine_iff.1 other.blankLead c (lead ▸ List.mem_append_left _ member)
  have spoken := trim_ne_nil_of_suffix (filled.trimmed.symm ▸ suffix) nonempty
  exact spoken (trim_eq_nil_iff.2 blank)

def Untimed (path : Text) : Prop :=
  ∀ front (duration : Duration), path ≠ front ++ duration.render

theorem untimed_iff {path : Text} :
    Untimed path ↔ ∀ ending ∈ path.tails, isTiming ending = false := by
  constructor
  · intro untimed ending member
    obtain ⟨front, split⟩ := (List.mem_tails _ _).1 member
    rw [Bool.eq_false_iff, ne_eq, isTiming_iff]
    rintro ⟨duration, rfl⟩
    exact untimed front duration split.symm
  · rintro silent front duration rfl
    have inside := (List.mem_tails _ _).2 (List.suffix_append front duration.render)
    exact Bool.eq_false_iff.1 (silent _ inside) (isTiming_iff.2 ⟨duration, rfl⟩)

theorem Untimed.cutBefore_eq {path : Text} (untimed : Untimed path) :
    cutBefore isTiming path = path :=
  cutBefore_eq_self fun ending suffix => untimed_iff.1 untimed ending ((List.mem_tails _ _).2 suffix)

end TestRunner

end BuildLog
