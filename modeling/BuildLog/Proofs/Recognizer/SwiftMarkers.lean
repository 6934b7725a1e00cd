import BuildLog.Proofs.Recognizer.PrintedMessages
import BuildLog.Proofs.Recognizer.PrintedPlaces
import BuildLog.Recognizer.Compilers

/-!
# Markers of Swift diagnostics

The compiler prints a message behind `: error:` or `: error `.  A marker with a colon is looked for
first, in the whole candidate, so a message behind a marker without one is read from the first
marker with a colon on when it quotes one, and as a whole only when it does not.
-/

set_option autoImplicit false

namespace BuildLog

open Text

/-! ## Letters and blanks -/

namespace Text

theorem eq_colon_of_toLower {c : Char} (lower : c.toLower = ':') : c = ':' := by
  rcases toLower_cases c with same | ⟨low, -, value⟩
  · exact same.symm.trans lower
  · have colon : c.toLower.toNat = 58 := congrArg Char.toNat lower
    omega

theorem colon_not_mem_lowered {t : Text} (absent : ':' ∉ t) : ':' ∉ lowered t := by
  intro member
  obtain ⟨c, inside, lower⟩ := List.mem_map.1 member
  exact absent (eq_colon_of_toLower lower ▸ inside)

def weight (t : Text) : Nat :=
  t.countP fun c => !isBlank c

theorem weight_append (first second : Text) :
    weight (first ++ second) = weight first + weight second :=
  List.countP_append

theorem weight_of_isBlankLine {t : Text} (blank : isBlankLine t = true) : weight t = 0 := by
  rw [weight, List.countP_eq_zero]
  intro c member
  simp [isBlankLine_iff.1 blank c member]

theorem weight_reverse (t : Text) : weight t.reverse = weight t :=
  List.countP_reverse

theorem weight_trimStart (t : Text) : weight (trimStart t) = weight t := by
  have split := List.takeWhile_append_dropWhile (p := isBlank) (l := t)
  have front : isBlankLine (t.takeWhile isBlank) = true := List.all_takeWhile
  have sum := weight_append (t.takeWhile isBlank) (t.dropWhile isBlank)
  rw [split, weight_of_isBlankLine front, Nat.zero_add] at sum
  exact sum.symm

theorem weight_trim (t : Text) : weight (trim t) = weight t :=
  calc
    weight (trim t) = weight (trimStart (trimStart t).reverse) := weight_reverse _
    _ = weight (trimStart t).reverse := weight_trimStart _
    _ = weight (trimStart t) := weight_reverse _
    _ = weight t := weight_trimStart t

theorem weight_lowered_le (t : Text) : weight (lowered t) ≤ weight t := by
  rw [weight, lowered, List.countP_map]
  apply List.countP_mono_left
  intro c _ solid
  cases blank : isBlank c with
  | false => rfl
  | true => simp [toLower_of_isBlank blank, blank] at solid

theorem weight_lt_of_cutLowered? {mark t before rest : Text} (solid : 0 < weight mark)
    (found : cutLowered? mark t = some (before, rest)) : weight rest < weight t := by
  obtain ⟨spelled, rfl, rfl⟩ := eq_of_cutLowered? found
  have spelledSolid := weight_lowered_le spelled
  rw [weight_append, weight_append]
  omega

end Text

namespace Numeral

theorem lowered_render (n : Nat) : lowered (render n) = render n := by
  have same : ∀ c ∈ render n, c.toLower = id c := fun c member =>
    toLower_of_isDigit (isDigit_of_mem_render member)
  rw [lowered, List.map_congr_left same, List.map_id]

end Numeral

namespace Swift

/-- A candidate as the compiler prints it, with a remark on its target behind it or without.  The
marker has a colon at its end or a blank, in any case. -/
structure Candidate where
  place : Location
  marker : Text
  message : Text
  remark : Text
  plain : ':' ∉ place.path
  named : trim place.path ≠ []
  smallLine : place.line < Numeral.limit
  smallColumn : place.column < Numeral.limit
  marked : lowered marker = ": error:".toList ∨ lowered marker = ": error ".toList
  spoken : trim message ≠ []
  untargeted : ¬ " (in target ".toList <:+: place.render ++ marker ++ message ++ [' ']
  remarked : remark = [] ∨ " (in target ".toList <+: remark

namespace Candidate
variable (candidate : Candidate)

/-- As in `path:5:3: error: message`. -/
def line : Text :=
  candidate.place.render ++ candidate.marker ++ candidate.message

def render : Text :=
  candidate.line ++ candidate.remark

/-- What is kept of the message: behind a marker without a colon, only what follows the first marker
with one, if there is any. -/
def kept : Text :=
  if lowered candidate.marker = ": error:".toList then candidate.message
  else ((cutLowered? ": error:".toList candidate.message).map Prod.snd).getD candidate.message

def record (text : Text) : Diagnostic :=
  ⟨.xcode, trim candidate.place.path, candidate.place.line - 1, candidate.place.column - 1, text⟩

end Candidate

/-! ## Finding the marker -/

theorem cut?_number {mark : Text} (n : Nat) (t : Text) :
    cut? (':' :: ' ' :: mark) (':' :: Numeral.render n ++ t) =
      (cut? (':' :: ' ' :: mark) t).map
        fun sides => (':' :: Numeral.render n ++ sides.1, sides.2) := by
  have noColon : ':' ∉ Numeral.render n := Numeral.not_mem_render (by decide) n
  have other : ¬ ':' :: ' ' :: mark <+: ':' :: (Numeral.render n ++ t) := by
    obtain ⟨d, digits, split, digit⟩ := Numeral.exists_first_digit n
    rw [split, List.cons_append, List.cons_prefix_cons, List.cons_prefix_cons]
    rintro ⟨-, rfl, -⟩
    exact absurd digit (by decide)
  rw [List.cons_append, cut?_cons_of_not_isPrefix other, cut?_append_of_not_mem noColon,
    Option.map_map]
  rfl

theorem cutLowered?_render {place : Location} (plain : ':' ∉ place.path) {mark : Text} (t : Text) :
    cutLowered? (':' :: ' ' :: mark) (place.render ++ t) =
      (cutLowered? (':' :: ' ' :: mark) t).map
        fun sides => (place.render ++ sides.1, sides.2) := by
  apply cutLowered?_append
  have path := colon_not_mem_lowered plain
  have place : lowered place.render = lowered place.path ++
      ((':' :: Numeral.render place.line) ++ (':' :: Numeral.render place.column)) := by
    have behindColon : ∀ n, lowered (':' :: Numeral.render n) = ':' :: Numeral.render n :=
      fun n => congrArg (':' :: ·) (Numeral.lowered_render n)
    rw [Location.render, lowered_append, lowered_append, behindColon, behindColon,
      List.append_assoc]
  rw [place]
  simp only [List.append_assoc, cut?_append_of_not_mem path, cut?_number, Option.map_map]
  rfl

/-- A marker with a blank at its end is no marker with a colon, and none starts inside it. -/
theorem cut?_blank_marker (t : Text) :
    cut? ": error:".toList (": error ".toList ++ t) =
      (cut? ": error:".toList t).map fun sides => (": error ".toList ++ sides.1, sides.2) := by
  have colon : ": error:".toList = ':' :: " error:".toList := by decide
  have blank : ": error ".toList = ':' :: " error ".toList := by decide
  have other : ¬ ':' :: " error:".toList <+: ':' :: (" error ".toList ++ t) := by
    intro starts
    have short : ':' :: " error:".toList <+: ':' :: " error ".toList :=
      List.prefix_of_prefix_length_le starts (List.prefix_append _ t) (by decide)
    exact absurd short (by decide)
  have behind : ':' ∉ " error ".toList := by decide
  rw [colon, blank, List.cons_append, cut?_cons_of_not_isPrefix other,
    cut?_append_of_not_mem behind, Option.map_map]
  rfl

namespace Candidate
variable (candidate : Candidate)

theorem message?_line : message? candidate.line = some candidate.kept := by
  have line : candidate.line =
      candidate.place.render ++ (candidate.marker ++ candidate.message) := List.append_assoc ..
  have colon : ": error:".toList = ':' :: ' ' :: "error:".toList := by decide
  have blank : ": error ".toList = ':' :: ' ' :: "error ".toList := by decide
  -- both searches pass over the place, so they differ in the marker and the message only
  rw [message?, line, colon, blank, cutLowered?_render candidate.plain,
    cutLowered?_render candidate.plain, ← colon, ← blank, kept]
  rcases candidate.marked with spelling | spelling
  · rw [cutLowered?_append_self spelling, if_pos spelling]
    rfl
  · have other : lowered candidate.marker ≠ ": error:".toList := by
      rw [spelling]
      decide
    have behind : cutLowered? ": error:".toList (candidate.marker ++ candidate.message) =
        (cutLowered? ": error:".toList candidate.message).map
          fun sides => (candidate.marker ++ sides.1, sides.2) := by
      apply cutLowered?_append
      rw [spelling]
      exact cut?_blank_marker (lowered candidate.message)
    rw [cutLowered?_append_self spelling, behind, if_neg other]
    cases cutLowered? ": error:".toList candidate.message with
    | none => rfl
    | some sides => rfl

/-! ## Reading a candidate -/

theorem exists_tail_marker : ∃ tail, candidate.marker = ':' :: tail := by
  have starts : ∃ rest, lowered candidate.marker = ':' :: rest := by
    rcases candidate.marked with spelling | spelling
    · exact ⟨" error:".toList, spelling.trans (by decide)⟩
    · exact ⟨" error ".toList, spelling.trans (by decide)⟩
  obtain ⟨rest, spelling⟩ := starts
  obtain ⟨c, tail, split, lower, -⟩ := List.map_eq_cons_iff.1 spelling
  exact ⟨tail, eq_colon_of_toLower lower ▸ split⟩

theorem splitOn_line : ∃ parts, candidate.line.splitOn ':' =
    candidate.place.path :: Numeral.render candidate.place.line ::
      Numeral.render candidate.place.column :: parts := by
  have digits : ∀ n, ':' ∉ Numeral.render n := Numeral.not_mem_render (by decide)
  obtain ⟨tail, colon⟩ := candidate.exists_tail_marker
  refine ⟨(tail ++ candidate.message).splitOn ':', ?_⟩
  have line : candidate.line = candidate.place.path ++ ':' ::
      (Numeral.render candidate.place.line ++ ':' ::
        (Numeral.render candidate.place.column ++ ':' :: (tail ++ candidate.message))) := by
    simp [Candidate.line, Location.render, colon]
  rw [line, splitOn_append_cons candidate.plain, splitOn_append_cons (digits _),
    splitOn_append_cons (digits _)]

theorem cut?_target :
    ((cut? " (in target ".toList candidate.render).map Prod.fst).getD candidate.render =
      candidate.line := by
  rcases candidate.remarked with nothing | ⟨more, remark⟩
  · have absent : cut? " (in target ".toList candidate.line = none := by
      rw [cut?_eq_none_iff]
      intro inside
      exact candidate.untargeted (inside.trans (List.prefix_append _ _).isInfix)
    rw [render, nothing, List.append_nil, absent]
    rfl
  · have overlaps : OverlapsUpTo 1 " (in target ".toList := by decide
    have cut : cut? " (in target ".toList (candidate.line ++ " (in target ".toList ++ more) =
        some (candidate.line, more) := cut?_append_mark overlaps candidate.untargeted more
    have whole : candidate.render = candidate.line ++ " (in target ".toList ++ more := by
      rw [render, ← remark, List.append_assoc]
    rw [whole, cut]
    rfl

theorem kept_of_whole (whole : lowered candidate.marker = ": error:".toList ∨
    ¬ ": error:".toList <:+: lowered candidate.message) : candidate.kept = candidate.message := by
  rw [kept]
  split
  · rfl
  · next other =>
      rw [cutLowered?_eq_none_iff.2 (whole.resolve_left other)]
      rfl

theorem weight_kept_lt (other : lowered candidate.marker ≠ ": error:".toList)
    (inside : ": error:".toList <:+: lowered candidate.message) :
    weight candidate.kept < weight candidate.message := by
  rw [kept, if_neg other]
  cases found : cutLowered? ": error:".toList candidate.message with
  | none => exact absurd inside (cutLowered?_eq_none_iff.1 found)
  | some sides => exact weight_lt_of_cutLowered? (by decide) found

section Context
variable {context : Text} (contextual : trim context ≠ [])
include contextual

theorem read_render : read candidate.render context =
    .ok (candidate.record (trim (spaced (trim candidate.kept) (trim context)))) := by
  obtain ⟨parts, split⟩ := candidate.splitOn_line
  have numbers := Location.numbers_render .xcode candidate.smallLine candidate.smallColumn
  have spoken : trim (spaced (trim candidate.kept) (trim context)) ≠ [] := by
    intro blank
    have all := isBlankLine_iff.1 (trim_eq_nil_iff.1 blank)
    have inContext : isBlankLine (trim context) = true := isBlankLine_iff.2 fun c member =>
      all c (List.mem_append_right _ (List.mem_cons_of_mem ' ' member))
    exact contextual ((trim_trim context).symm.trans (trim_eq_nil_iff.2 inContext))
  rw [read, candidate.cut?_target]
  simp only [split, numbers, candidate.message?_line]
  exact Diagnostic.ofOneBased_eq_ok .xcode _ _ candidate.named spoken

/-- The text of the record is the whole message exactly when the marker has a colon or the message
quotes no marker with one. -/
theorem text_eq_iff :
    trim (spaced (trim candidate.kept) (trim context)) =
        spaced (trim candidate.message) (trim context) ↔
      lowered candidate.marker = ": error:".toList ∨
        ¬ ": error:".toList <:+: lowered candidate.message := by
  constructor
  · intro same
    by_contra quoted
    obtain ⟨other, inside⟩ := not_or.1 quoted
    -- trimming and joining keep the weights, and some of the message has been lost
    have less := candidate.weight_kept_lt other (not_not.1 inside)
    have weights := congrArg weight same
    simp only [spaced, weight_trim, weight_append] at weights
    omega
  · intro whole
    have message : Filled (trim candidate.message) := ⟨candidate.spoken, trim_trim _⟩
    have behind : Filled (trim context) := ⟨contextual, trim_trim context⟩
    have joined := message.append behind [' ']
    rw [List.append_assoc] at joined
    rw [candidate.kept_of_whole whole]
    exact joined.trimmed

end Context

end Candidate

/-- What is read of a candidate, and when it is what the compiler printed.  Behind a marker with a
colon it always is, whatever markers the message quotes.  Behind a marker without one it is not when
the message quotes a marker with one: then the message starts behind the quoted marker. -/
theorem read_candidate (candidate : Candidate) {context : Text} (contextual : trim context ≠ []) :
    read candidate.render context =
        .ok (candidate.record (trim (spaced (trim candidate.kept) (trim context)))) ∧
      (read candidate.render context =
          .ok (candidate.record (spaced (trim candidate.message) (trim context))) ↔
        lowered candidate.marker = ": error:".toList ∨
          ¬ ": error:".toList <:+: lowered candidate.message) := by
  have found := candidate.read_render contextual
  refine ⟨found, ?_⟩
  rw [found, ← candidate.text_eq_iff contextual]
  simp [Candidate.record]

/-- A message behind a marker with a colon that quotes both markers. -/
theorem read_candidate_quoting_markers :
    let candidate : Candidate :=
      { place := ⟨" src/A b.swift".toList, 8, 0⟩
        marker := ": Error:".toList
        message := " wrapped: error: inner: error x".toList
        remark := " (in target 'App')".toList
        plain := by decide
        named := by decide
        smallLine := by decide
        smallColumn := by decide
        marked := by decide
        spoken := by decide
        untargeted := by decide
        remarked := by decide }
    trim "  let a = 1".toList ≠ [] ∧
      candidate.render =
        " src/A b.swift:8:0: Error: wrapped: error: inner: error x (in target 'App')".toList ∧
      read candidate.render "  let a = 1".toList =
        .ok ⟨.xcode, "src/A b.swift".toList, 7, 0,
          "wrapped: error: inner: error x let a = 1".toList⟩ := by
  intro candidate
  have contextual : trim "  let a = 1".toList ≠ [] := by decide
  have whole := (read_candidate candidate contextual).2.2 (.inl (by decide))
  refine ⟨contextual, by decide, ?_⟩
  rw [whole]
  decide

/-- A marker without a colon, and a message that quotes one with a colon: the message is not read
from its start. -/
theorem message_cut_at_quoted_marker :
    let candidate : Candidate :=
      { place := ⟨"A.swift".toList, 8, 1⟩
        marker := ": error ".toList
        message := "wrapped: error: inner".toList
        remark := []
        plain := by decide
        named := by decide
        smallLine := by decide
        smallColumn := by decide
        marked := by decide
        spoken := by decide
        untargeted := by decide
        remarked := by decide }
    ".swift".toList <:+ candidate.place.path ∧ trim "ctx".toList ≠ [] ∧
      candidate.render = "A.swift:8:1: error wrapped: error: inner".toList ∧
      read candidate.render "ctx".toList =
        .ok ⟨.xcode, "A.swift".toList, 7, 0, "inner ctx".toList⟩ ∧
      read candidate.render "ctx".toList ≠
        .ok (candidate.record (spaced (trim candidate.message) (trim "ctx".toList))) := by
  decide

end Swift

end BuildLog
