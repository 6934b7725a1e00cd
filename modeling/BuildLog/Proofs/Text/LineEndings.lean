import BuildLog.Extraction
import BuildLog.Proofs.Terminal.Barrier
import BuildLog.Proofs.Text.Pieces
import Mathlib.Data.List.Forall2

/-!
# Carriage returns at the ends of lines

Some tools end a line with a line break, some with a carriage return and a line break, and some mix
the two.  A carriage return is no part of any escape sequence, so it stays where it is when a text
is stripped, and then it stands at the end of a line and nowhere else.
-/

set_option autoImplicit false

namespace BuildLog

namespace Text

/-- The second text is the first one with a carriage return in front of some of its line breaks. -/
inductive Returned : Text → Text → Prop
  | nil : Returned [] []
  | keep (c : Char) {t shown : Text} (rest : Returned t shown) : Returned (c :: t) (c :: shown)
  | insert {t shown : Text} (rest : Returned t shown) :
      Returned ('\n' :: t) ('\r' :: '\n' :: shown)

/-- The second line is the first one, or the first one with a carriage return behind it. -/
def SameLine (line shown : Text) : Prop :=
  shown = line ∨ shown = line ++ ['\r']

namespace Returned

theorem refl (t : Text) : Returned t t := by
  induction t with
  | nil => exact nil
  | cons c t ih => exact ih.keep c

theorem append_left (before : Text) {t shown : Text} (returned : Returned t shown) :
    Returned (before ++ t) (before ++ shown) := by
  induction before with
  | nil => exact returned
  | cons c before ih => exact ih.keep c

theorem eq_nil_iff {t shown : Text} (returned : Returned t shown) : shown = [] ↔ t = [] := by
  cases returned with
  | nil => exact Iff.rfl
  | keep c rest => simp
  | insert rest => simp

/-! ## Marks -/

section Marks
variable {mark : Text} (oneLine : '\n' ∉ mark) (unreturned : '\r' ∉ mark)
include oneLine unreturned

theorem prefix_iff {t shown : Text} (returned : Returned t shown) :
    mark <+: shown ↔ mark <+: t := by
  induction returned generalizing mark with
  | nil => exact Iff.rfl
  | keep c rest ih =>
      cases mark with
      | nil => simp
      | cons d mark =>
          have shorter := ih (fun inside => oneLine (List.mem_cons_of_mem d inside))
            fun inside => unreturned (List.mem_cons_of_mem d inside)
          rw [List.cons_prefix_cons, List.cons_prefix_cons, shorter]
  | insert rest ih =>
      cases mark with
      | nil => simp
      | cons d mark =>
          have notReturn : d ≠ '\r' := fun same => unreturned (same ▸ List.mem_cons_self)
          have notBreak : d ≠ '\n' := fun same => oneLine (same ▸ List.mem_cons_self)
          simp [List.cons_prefix_cons, notReturn, notBreak]

theorem infix_iff {t shown : Text} (returned : Returned t shown) :
    mark <:+: shown ↔ mark <:+: t := by
  induction returned with
  | nil => exact Iff.rfl
  | keep c rest ih =>
      rw [List.infix_cons_iff, List.infix_cons_iff, ih,
        prefix_iff oneLine unreturned (rest.keep c)]
  | @insert t shown rest ih =>
      have start := prefix_iff oneLine unreturned rest.insert
      have start' := prefix_iff oneLine unreturned (rest.keep '\n')
      rw [List.infix_cons_iff, List.infix_cons_iff, List.infix_cons_iff, ih, start, start']
      exact or_self_left

end Marks

/-! ## Lines -/

theorem forall₂_splitOn_append {t shown : Text} (returned : Returned t shown) {before : Text}
    (oneLine : '\n' ∉ before) :
    List.Forall₂ SameLine ((before ++ t).splitOn '\n') ((before ++ shown).splitOn '\n') := by
  -- `before` is what has been read of the line that the rest goes on with
  induction returned generalizing before with
  | nil => exact List.forall₂_same.2 fun line _ => .inl rfl
  | @keep c t shown rest ih =>
      by_cases ends : c = '\n'
      · subst ends
        have below := ih (List.not_mem_nil : '\n' ∉ ([] : Text))
        rw [List.splitOn_append_cons_self, List.splitOn_append_cons_self,
          List.splitOn_eq_singleton oneLine]
        exact .cons (.inl rfl) below
      · have longer : '\n' ∉ before ++ [c] := by
          simp only [List.mem_append, List.mem_singleton, not_or]
          exact ⟨oneLine, Ne.symm ends⟩
        simpa using ih longer
  | @insert t shown rest ih =>
      have below := ih (List.not_mem_nil : '\n' ∉ ([] : Text))
      have returnedLine : '\n' ∉ before ++ ['\r'] := by simp [oneLine]
      have grouped : before ++ '\r' :: '\n' :: shown = (before ++ ['\r']) ++ '\n' :: shown := by
        simp
      rw [grouped, List.splitOn_append_cons_self, List.splitOn_append_cons_self,
        List.splitOn_eq_singleton oneLine, List.splitOn_eq_singleton returnedLine]
      exact .cons (.inr rfl) below

theorem forall₂_splitOn {t shown : Text} (returned : Returned t shown) :
    List.Forall₂ SameLine (t.splitOn '\n') (shown.splitOn '\n') :=
  @forall₂_splitOn_append _ _ returned [] List.not_mem_nil

end Returned

end Text

open Text

/-! ## Stripping -/

theorem Terminal.isBarrier_return : isBarrier '\r' = true := by
  decide

theorem Text.Returned.strip_append {t shown : Text} (returned : Returned t shown) (before : Text) :
    Returned (Terminal.strip (before ++ t)) (Terminal.strip (before ++ shown)) := by
  -- a sequence may reach from `before` into the rest, but not over a line break
  induction returned generalizing before with
  | nil => exact refl _
  | @keep c t shown rest ih => simpa using ih (before ++ [c])
  | @insert t shown rest ih =>
      have below : Returned (Terminal.strip t) (Terminal.strip shown) := ih []
      have front := Terminal.strip_append_barrier Terminal.isBarrier_return before ('\n' :: shown)
      have back := Terminal.strip_append_barrier Terminal.isBarrier_newline [] shown
      rw [List.nil_append, Terminal.strip_nil, List.nil_append] at back
      rw [Terminal.strip_append_barrier Terminal.isBarrier_newline, front, back]
      exact .append_left _ below.insert

theorem Text.Returned.strip {t shown : Text} (returned : Returned t shown) :
    Returned (Terminal.strip t) (Terminal.strip shown) :=
  returned.strip_append []

theorem normalizeLine_of_unreturned {line : Text} (unreturned : '\r' ∉ line) :
    normalizeLine line = Terminal.strip line := by
  have notEnding : endsWith ['\r'] (Terminal.strip line) = false := by
    rw [endsWith, Bool.eq_false_iff]
    intro ending
    have suffix := List.isSuffixOf_iff_suffix.1 ending
    exact unreturned ((Terminal.strip_sublist line).mem (suffix.mem List.mem_cons_self))
  simp [normalizeLine, notEnding]

theorem normalizeLine_concat_return (line : Text) :
    normalizeLine (line ++ ['\r']) = Terminal.strip line := by
  have split := Terminal.strip_append_barrier Terminal.isBarrier_return line []
  rw [Terminal.strip_nil] at split
  have ending : endsWith ['\r'] (Terminal.strip line ++ ['\r']) = true :=
    List.isSuffixOf_iff_suffix.2 (List.suffix_append _ _)
  simp [normalizeLine, split, ending]

theorem map_eq_of_forall₂ {α β : Type} {related : α → α → Prop} {first second : List α}
    (pairs : List.Forall₂ related first second) {read : α → β}
    (same : ∀ a ∈ first, ∀ b, related a b → read b = read a) :
    second.map read = first.map read := by
  induction pairs with
  | nil => rfl
  | @cons a b first second here rest ih =>
      obtain ⟨head, tail⟩ := List.forall_mem_cons.1 same
      rw [List.map_cons, List.map_cons, head b here, ih tail]

theorem normalizeLine_of_sameLine {line shown : Text} (unreturned : '\r' ∉ line)
    (same : SameLine line shown) : normalizeLine shown = normalizeLine line := by
  rcases same with rfl | rfl
  · rfl
  · rw [normalizeLine_concat_return, normalizeLine_of_unreturned unreturned]

theorem map_normalizeLine_of_sameLine {lines shown : List Text}
    (same : List.Forall₂ SameLine lines shown) (unreturned : ∀ line ∈ lines, '\r' ∉ line) :
    shown.map normalizeLine = lines.map normalizeLine :=
  map_eq_of_forall₂ same fun line member _ => normalizeLine_of_sameLine (unreturned line member)

theorem splitLines_of_returned {t shown : Text} (returned : Returned t shown)
    (unreturned : '\r' ∉ t) : splitLines shown = splitLines t := by
  have lines : ∀ line ∈ t.splitOn '\n', '\r' ∉ line := fun line member inside =>
    unreturned ((piece_of_mem_splitOn member).2.mem inside)
  rw [splitLines, splitLines, map_normalizeLine_of_sameLine returned.forall₂_splitOn lines]
  simp only [returned.eq_nil_iff]

/-! ## Blocks -/

namespace BlockPass

theorem linesOf_of_returned {t shown : Text} (returned : Returned t shown) :
    linesOf shown = linesOf t := by
  apply map_eq_of_forall₂ returned.forall₂_splitOn
  rintro line - other (rfl | rfl)
  · rfl
  · rw [dropEndWhile_eq_rdropWhile, List.rdropWhile_concat_pos _ _ _ (by decide),
      ← dropEndWhile_eq_rdropWhile]

theorem applies_of_returned {t shown : Text} (returned : Returned t shown) :
    ∀ detector ∈ detectors, detector.applies shown = detector.applies t := by
  simp only [detectors, List.forall_mem_cons]
  refine ⟨?compilation, ?report, ?block, List.forall_mem_nil _⟩
  case compilation =>
    rw [Bool.eq_iff_iff, startsWith_iff, startsWith_iff]
    exact Returned.prefix_iff (by decide) (by decide) returned
  case report =>
    rw [Bool.eq_iff_iff, occursIn_iff, occursIn_iff]
    exact Returned.infix_iff (by decide) (by decide) returned
  case block =>
    rw [Bool.eq_iff_iff, startsWith_iff, startsWith_iff]
    exact Returned.prefix_iff (by decide) (by decide) returned

theorem attemptsOf_congr {first second : Text} (sameLines : linesOf first = linesOf second)
    {detectors : List Detector}
    (sameTests : ∀ detector ∈ detectors, detector.applies first = detector.applies second) :
    attemptsOf first detectors = attemptsOf second detectors := by
  induction detectors with
  | nil => rfl
  | cons detector rest ih =>
      obtain ⟨here, later⟩ := List.forall_mem_cons.1 sameTests
      rw [attemptsOf, attemptsOf, here, sameLines, ih later]

theorem attempts_of_returned {t shown : Text} (returned : Returned t shown) :
    attempts shown = attempts t :=
  attemptsOf_congr (linesOf_of_returned returned) (applies_of_returned returned)

end BlockPass

end BuildLog
