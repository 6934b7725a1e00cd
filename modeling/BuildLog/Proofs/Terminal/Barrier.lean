import BuildLog.Proofs.Text.Trimming
import BuildLog.Terminal

/-!
# Characters that no escape sequence crosses

Every character of an escape sequence behind its introducer is a printable ASCII character.  Any
other character ends a sequence that is still open, so the texts on its two sides are stripped
apart.  The line break is such a character: stripping a text and splitting it into lines can be
done in either order.
-/

set_option autoImplicit false

namespace BuildLog.Terminal

/-- Whether a character can stand neither at the start of an escape sequence nor inside one. -/
def isBarrier (c : Char) : Bool :=
  !isIntroducer c && decide (c.toNat < 0x20 ∨ 0x7E < c.toNat)

theorem isBarrier_newline : isBarrier '\n' = true := by
  decide

section Classes
variable {c : Char}

theorem isIntroducer_of_isBarrier (barrier : isBarrier c = true) : isIntroducer c = false := by
  simp only [isBarrier, Bool.and_eq_true, Bool.not_eq_true'] at barrier
  exact barrier.1

theorem not_printable_of_isBarrier (barrier : isBarrier c = true) :
    c.toNat < 0x20 ∨ 0x7E < c.toNat := by
  simp only [isBarrier, Bool.and_eq_true, decide_eq_true_eq] at barrier
  exact barrier.2

theorem isParameter_of_isBarrier (barrier : isBarrier c = true) : isParameter c = false := by
  have outside := not_printable_of_isBarrier barrier
  simp only [isParameter, decide_eq_false_iff_not]
  omega

theorem isIntermediate_of_isBarrier (barrier : isBarrier c = true) : isIntermediate c = false := by
  have outside := not_printable_of_isBarrier barrier
  simp only [isIntermediate, decide_eq_false_iff_not]
  omega

theorem isFinal_of_isBarrier (barrier : isBarrier c = true) : isFinal c = false := by
  have outside := not_printable_of_isBarrier barrier
  simp only [isFinal, decide_eq_false_iff_not]
  omega

theorem isShortFinal_of_isBarrier (barrier : isBarrier c = true) : isShortFinal c = false := by
  have outside := not_printable_of_isBarrier barrier
  have wrongRange : ¬ (0x40 ≤ c.toNat ∧ c.toNat ≤ 0x5F) := by omega
  simp [isShortFinal, wrongRange]

theorem ne_bracket_of_isBarrier (barrier : isBarrier c = true) : c ≠ '[' := by
  rintro rfl
  exact absurd barrier (by decide)

end Classes

/-! ## One sequence -/

theorem afterControl?_append_barrier {c : Char} (barrier : isBarrier c = true)
    (before rest : Text) :
    afterControl? (before ++ c :: rest) =
      (afterControl? before).map fun tail => tail ++ c :: rest := by
  have parameters := Text.dropWhile_append_stop (isParameter_of_isBarrier barrier) before rest
  have intermediates := Text.dropWhile_append_stop (isIntermediate_of_isBarrier barrier)
    (before.dropWhile isParameter) rest
  rw [afterControl?, afterControl?, parameters, intermediates]
  cases (before.dropWhile isParameter).dropWhile isIntermediate with
  | nil => simp [isFinal_of_isBarrier barrier]
  | cons d tail =>
      by_cases last : isFinal d = true
      · simp [last]
      · simp [last]

/-- Whether a sequence is complete, and where it ends, is decided in front of a barrier. -/
theorem afterSequence?_append_barrier {c : Char} (barrier : isBarrier c = true)
    (introducer : Char) (before rest : Text) :
    afterSequence? introducer (before ++ c :: rest) =
      (afterSequence? introducer before).map fun tail => tail ++ c :: rest := by
  by_cases single : introducer = controlIntroducer
  · simp only [afterSequence?, single, ↓reduceIte]
    exact afterControl?_append_barrier barrier before rest
  · cases before with
    | nil =>
        have short := isShortFinal_of_isBarrier barrier
        simp [afterSequence?, single, ne_bracket_of_isBarrier barrier, short]
    | cons d before =>
        by_cases bracket : d = '['
        · subst bracket
          simp only [afterSequence?, single, ↓reduceIte, List.cons_append]
          exact afterControl?_append_barrier barrier before rest
        · by_cases short : isShortFinal d = true
          · simp [afterSequence?, single, short]
          · simp [afterSequence?, single, short]

/-! ## Whole texts -/

theorem strip_append_barrier {c : Char} (barrier : isBarrier c = true) (before rest : Text) :
    strip (before ++ c :: rest) = strip before ++ c :: strip rest := by
  fun_induction strip before with
  | case1 =>
      rw [List.nil_append, List.nil_append]
      exact strip_cons_plain (isIntroducer_of_isBarrier barrier) rest
  | case2 d before introducer tail found ih =>
      rw [List.cons_append, strip_cons_introducer introducer,
        afterSequence?_append_barrier barrier, found]
      exact ih
  | case3 d before introducer missing ih =>
      rw [List.cons_append, strip_cons_introducer introducer,
        afterSequence?_append_barrier barrier, missing]
      exact ih
  | case4 d before plain ih =>
      have visible : isIntroducer d = false := by simpa using plain
      rw [List.cons_append, strip_cons_plain visible, ih, List.cons_append]

theorem suffix_of_afterControl? {t rest : Text} (found : afterControl? t = some rest) :
    rest <:+ t := by
  unfold afterControl? at found
  split at found
  · next c tail split =>
      split at found
      · cases found
        have inner : c :: rest <:+ t.dropWhile isParameter :=
          split ▸ List.dropWhile_suffix isIntermediate
        exact (List.suffix_cons c rest).trans (inner.trans (List.dropWhile_suffix isParameter))
      · cases found
  · cases found

theorem suffix_of_afterSequence? {introducer : Char} {t rest : Text}
    (found : afterSequence? introducer t = some rest) : rest <:+ t := by
  unfold afterSequence? at found
  split at found
  · exact suffix_of_afterControl? found
  · split at found
    · exact (suffix_of_afterControl? found).trans (List.suffix_cons _ _)
    · split at found
      · cases found
        exact List.suffix_cons _ _
      · cases found
    · cases found

theorem strip_sublist (t : Text) : (strip t).Sublist t := by
  fun_induction strip t with
  | case1 => exact List.Sublist.refl _
  | case2 c t introducer rest found ih =>
      exact (ih.trans (suffix_of_afterSequence? found).sublist).cons c
  | case3 c t introducer missing ih => exact ih.cons c
  | case4 c t plain ih => exact ih.cons_cons c

theorem splitOn_strip_of_not_mem {c : Char} {t : Text} (absent : c ∉ t) :
    (strip t).splitOn c = (t.splitOn c).map strip := by
  have absentStripped : c ∉ strip t := fun inside => absent ((strip_sublist t).mem inside)
  rw [List.splitOn_eq_singleton absent, List.splitOn_eq_singleton absentStripped]
  rfl

/-- A text may be stripped before or after it is split at a barrier. -/
theorem splitOn_strip {c : Char} (barrier : isBarrier c = true) (t : Text) :
    (strip t).splitOn c = (t.splitOn c).map strip := by
  -- what stands behind the first barrier is shorter, and what stands before it has no barrier
  by_cases inside : c ∈ t
  · obtain ⟨before, rest, split, absent⟩ := List.eq_append_cons_of_mem inside
    have shorter : rest.length < t.length := by
      rw [split, List.length_append, List.length_cons]
      omega
    have front := splitOn_strip_of_not_mem absent
    have back := splitOn_strip barrier rest
    rw [split, strip_append_barrier barrier, List.splitOn_append_cons_self,
      List.splitOn_append_cons_self, List.map_append, front, back]
  · exact splitOn_strip_of_not_mem inside
termination_by t.length

end BuildLog.Terminal
