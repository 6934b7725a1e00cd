import BuildLog.Proofs.Terminal.Barrier
import BuildLog.Proofs.Terminal.Colouring
import Mathlib.Data.List.TakeWhile

/-!
# What stripping takes and leaves

Stripping takes out each complete escape sequence as a whole and each introducer that starts none;
it leaves no introducer, so stripping again changes nothing.  All else stays.
In particular a character that cannot stand in a sequence stays, and what stands on its two sides
is stripped apart.
-/

set_option autoImplicit false

namespace BuildLog.Terminal

/-! ## Complete sequences -/

theorem exists_of_afterControl? {t rest : Text} (found : afterControl? t = some rest) :
    ∃ parameters intermediates last, t = parameters ++ (intermediates ++ last :: rest) ∧
      (∀ c ∈ parameters, isParameter c = true) ∧
      (∀ c ∈ intermediates, isIntermediate c = true) ∧ isFinal last = true := by
  unfold afterControl? at found
  split at found
  · next last tail split =>
      split at found
      · next ends =>
          cases found
          refine ⟨t.takeWhile isParameter, (t.dropWhile isParameter).takeWhile isIntermediate, last,
            ?_, fun c => List.mem_takeWhile_imp, fun c => List.mem_takeWhile_imp, ends⟩
          rw [← split, List.takeWhile_append_dropWhile, List.takeWhile_append_dropWhile]
      · cases found
  · cases found

theorem afterSequence?_eq_some_iff {introducer : Char} (starts : isIntroducer introducer = true)
    {t rest : Text} :
    afterSequence? introducer t = some rest ↔
      ∃ code, IsSequence code ∧ introducer :: t = code ++ rest := by
  constructor
  · intro found
    -- a control sequence is what its opening and what `afterControl?` passes over make together
    have control : ∀ {opening tail : Text},
        opening = [escape, '['] ∨ opening = [controlIntroducer] →
        introducer :: t = opening ++ tail → afterControl? tail = some rest →
        ∃ code, IsSequence code ∧ introducer :: t = code ++ rest := by
      intro opening tail opens split passed
      obtain ⟨parameters, intermediates, last, same, allParameters, allIntermediates, ends⟩ :=
        exists_of_afterControl? passed
      refine ⟨_, .control opens allParameters allIntermediates ends, ?_⟩
      rw [split, same]
      simp
    by_cases single : introducer = controlIntroducer
    · subst single
      rw [afterSequence?_controlIntroducer] at found
      exact control (.inr rfl) rfl found
    · have isEscape : introducer = escape := by
        simpa [isIntroducer, single] using starts
      subst isEscape
      unfold afterSequence? at found
      rw [if_neg single] at found
      split at found
      · exact control (.inl rfl) rfl found
      · split at found
        · next short =>
            cases found
            exact ⟨_, .short short, rfl⟩
        · cases found
      · cases found
  · rintro ⟨code, complete, split⟩
    cases complete with
    | @control opening parameters intermediates last opens allParameters allIntermediates ends =>
        have behind := afterControl?_append allParameters allIntermediates ends rest
        rcases opens with rfl | rfl
        · simp only [List.cons_append, List.append_assoc, List.nil_append, List.cons.injEq] at split
          obtain ⟨rfl, rfl⟩ := split
          exact (afterSequence?_bracket _).trans behind
        · simp only [List.cons_append, List.append_assoc, List.nil_append, List.cons.injEq] at split
          obtain ⟨rfl, rfl⟩ := split
          exact (afterSequence?_controlIntroducer _).trans behind
    | short ends =>
        simp only [List.cons_append, List.nil_append, List.cons.injEq] at split
        obtain ⟨rfl, rfl⟩ := split
        exact afterSequence?_short ends rest

theorem strip_cons_of_incomplete {introducer : Char} (starts : isIntroducer introducer = true)
    {t : Text} (incomplete : ∀ code, IsSequence code → ¬ code <+: introducer :: t) :
    strip (introducer :: t) = strip t := by
  have missing : afterSequence? introducer t = none := by
    rw [Option.eq_none_iff_forall_ne_some]
    intro rest found
    obtain ⟨code, complete, split⟩ := (afterSequence?_eq_some_iff starts).1 found
    exact incomplete code complete ⟨rest, split.symm⟩
  rw [strip_cons_introducer starts, missing, Option.getD_none]

/-! ## Characters that stay -/

theorem isBarrier_iff {c : Char} :
    isBarrier c = true ↔
      c ≠ escape ∧ c ≠ controlIntroducer ∧ ¬ (0x20 ≤ c.toNat ∧ c.toNat ≤ 0x7E) := by
  have outside : (c.toNat < 0x20 ∨ 0x7E < c.toNat) ↔ ¬ (0x20 ≤ c.toNat ∧ c.toNat ≤ 0x7E) := by
    omega
  simp only [isBarrier, isIntroducer, Bool.and_eq_true, Bool.not_eq_true', Bool.or_eq_false_iff,
    decide_eq_true_eq, decide_eq_false_iff_not, and_assoc, outside, ne_eq]

theorem not_mem_strip {c : Char} (introducer : isIntroducer c = true) (t : Text) :
    c ∉ strip t := by
  intro inside
  have free := List.any_eq_false.1 (hasEscape_strip t) c inside
  exact free introducer

theorem filter_isBarrier_strip (t : Text) :
    (strip t).filter isBarrier = t.filter isBarrier := by
  cases found : t.find? isBarrier with
  | none =>
      have plain : ∀ c ∈ t, ¬ isBarrier c = true := List.find?_eq_none.1 found
      rw [List.filter_eq_nil_iff.2 plain, List.filter_eq_nil_iff]
      exact fun c member => plain c ((strip_sublist t).mem member)
  | some c =>
      -- the text behind the first barrier is shorter
      obtain ⟨barrier, before, rest, split, free⟩ := List.find?_eq_some_iff_append.1 found
      have shorter : rest.length < t.length := by
        rw [split, List.length_append, List.length_cons]
        omega
      have front : ∀ d ∈ before, ¬ isBarrier d = true := fun d member => by
        simpa using free d member
      have strippedFront : ∀ d ∈ strip before, ¬ isBarrier d = true := fun d member =>
        front d ((strip_sublist before).mem member)
      have back := filter_isBarrier_strip rest
      rw [split, strip_append_barrier barrier, List.filter_append, List.filter_append,
        List.filter_eq_nil_iff.2 front, List.filter_eq_nil_iff.2 strippedFront,
        List.filter_cons_of_pos barrier, List.filter_cons_of_pos barrier, back]
termination_by t.length

/-! ## Whole texts -/

/-- Stripping takes out complete escape sequences and introducers that start none, and nothing else.
What is left has no introducer, and a text without introducers is left as it is.  Line breaks, tabs
and all characters beyond ASCII but `U+009B` stay where they are, and what stands on the two sides
of one is stripped apart, as when a text is split into lines. -/
theorem stripped_text (t : Text) :
    escape ∉ strip t ∧ controlIntroducer ∉ strip t ∧ (strip t).Sublist t ∧
      (escape ∉ t → controlIntroducer ∉ t → strip t = t) ∧ strip (strip t) = strip t ∧
      (strip t).filter isBarrier = t.filter isBarrier ∧
      (∀ c, c ≠ escape → c ≠ controlIntroducer → ¬ (0x20 ≤ c.toNat ∧ c.toNat ≤ 0x7E) →
        (∀ before rest, strip (before ++ c :: rest) = strip before ++ c :: strip rest) ∧
          (strip t).splitOn c = (t.splitOn c).map strip) ∧
      (∀ code, IsSequence code → strip (code ++ t) = strip t) ∧
      ∀ introducer, isIntroducer introducer = true →
        (∀ code, IsSequence code → ¬ code <+: introducer :: t) →
        strip (introducer :: t) = strip t := by
  have free : escape ∉ t → controlIntroducer ∉ t → hasEscape t = false := by
    intro noEscape noControl
    rw [hasEscape, List.any_eq_false]
    intro c member introducer
    simp only [isIntroducer, Bool.or_eq_true, decide_eq_true_eq] at introducer
    rcases introducer with rfl | rfl
    · exact noEscape member
    · exact noControl member
  refine ⟨not_mem_strip (by decide) t, not_mem_strip (by decide) t, strip_sublist t,
    fun noEscape noControl => strip_eq_self (free noEscape noControl), strip_strip t,
    filter_isBarrier_strip t, ?_, fun code complete => strip_append_of_isSequence complete t,
    fun introducer starts incomplete => strip_cons_of_incomplete starts incomplete⟩
  intro c notEscape notControl outside
  have barrier : isBarrier c = true := isBarrier_iff.2 ⟨notEscape, notControl, outside⟩
  exact ⟨strip_append_barrier barrier, splitOn_strip barrier t⟩

/-- A sequence that a line break cuts off is not complete: its introducer is removed alone. -/
theorem stripped_text_cut_off :
    let code := escape :: "[31m".toList
    let t := "[3\n4mred".toList
    escape ∉ t ∧ controlIntroducer ∉ t ∧ strip t = t ∧
      '\n' ≠ escape ∧ '\n' ≠ controlIntroducer ∧
      ¬ (0x20 ≤ '\n'.toNat ∧ '\n'.toNat ≤ 0x7E) ∧
      strip ((escape :: "[3".toList) ++ '\n' :: "4mred".toList) =
        strip (escape :: "[3".toList) ++ '\n' :: strip "4mred".toList ∧
      (strip t).splitOn '\n' = (t.splitOn '\n').map strip ∧
      IsSequence code ∧ strip (code ++ t) = strip t ∧
      isIntroducer escape = true ∧ (∀ code, IsSequence code → ¬ code <+: escape :: t) ∧
      strip (escape :: t) = strip t := by
  intro code t
  obtain ⟨-, -, -, unchanged, -, -, kept, removed, alone⟩ := stripped_text t
  have noEscape : escape ∉ t := by decide
  have noControl : controlIntroducer ∉ t := by decide
  obtain ⟨notEscape, notControl, outside⟩ := isBarrier_iff.1 isBarrier_newline
  obtain ⟨apart, split⟩ := kept '\n' notEscape notControl outside
  have digits : "31".toList.all isParameter = true := by decide
  have complete : IsSequence ([escape, '['] ++ ("31".toList ++ ([] ++ ['m']))) :=
    .control (.inl rfl) (List.all_eq_true.1 digits) (by simp) (by decide)
  have starts : isIntroducer escape = true := by decide
  have incomplete : ∀ code, IsSequence code → ¬ code <+: escape :: t := by
    rintro code complete ⟨rest, whole⟩
    have missing : afterSequence? escape t = none := by decide
    have found := (afterSequence?_eq_some_iff starts).2 ⟨code, complete, whole.symm⟩
    exact absurd (missing.symm.trans found) (by simp)
  exact ⟨noEscape, noControl, unchanged noEscape noControl, notEscape, notControl,
    outside, apart _ _, split, complete, removed code complete, starts, incomplete,
    alone escape starts incomplete⟩

end BuildLog.Terminal
