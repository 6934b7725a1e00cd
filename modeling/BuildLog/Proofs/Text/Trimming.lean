import BuildLog.Text.Characters
import Mathlib.Data.List.DropRight

/-!
# Trimmed and filled texts

What trimming takes away and what it leaves.
-/

set_option autoImplicit false

/-! ## Blanks and what trimming leaves

No blank is a letter, so lower case does not touch blanks.  A text is trimmed to nothing exactly
when it is blank all over, and a trimmed text does not end in a blank.
-/

namespace BuildLog.Text

theorem toLower_cases (c : Char) :
    c.toLower = c ∨ 0x41 ≤ c.toNat ∧ c.toNat ≤ 0x5A ∧ c.toLower.toNat = c.toNat + 32 := by
  by_cases capital : 'A'.val ≤ c.val ∧ c.val ≤ 'Z'.val
  · have low : 0x41 ≤ c.toNat := UInt32.le_iff_toNat_le.1 capital.1
    have high : c.toNat ≤ 0x5A := UInt32.le_iff_toNat_le.1 capital.2
    have shifted : c.toLower.val = c.val + 32 := congrArg Char.val (dif_pos capital)
    have value : c.toLower.toNat = (c.toNat + 32) % 4294967296 := congrArg UInt32.toNat shifted
    exact .inr ⟨low, high, value.trans (Nat.mod_eq_of_lt (by omega))⟩
  · exact .inl (dif_neg capital)

theorem toLower_of_isBlank {c : Char} (blank : isBlank c = true) : c.toLower = c := by
  rcases toLower_cases c with same | ⟨low, high, -⟩
  · exact same
  · simp [isBlank, blankRanges] at blank
    omega

theorem toLower_of_isDigit {c : Char} (digit : c.isDigit = true) : c.toLower = c := by
  have bounds : 48 ≤ c.toNat ∧ c.toNat ≤ 57 := by
    simpa [Char.isDigit, UInt32.le_iff_toNat_le] using digit
  rcases toLower_cases c with same | ⟨low, -⟩
  · exact same
  · omega

theorem dropEndWhile_eq_rdropWhile (p : Char → Bool) (t : Text) :
    dropEndWhile p t = t.rdropWhile p :=
  rfl

theorem isBlankLine_iff {t : Text} : isBlankLine t = true ↔ ∀ c ∈ t, isBlank c = true :=
  List.all_eq_true

theorem trimStart_eq_nil_iff {t : Text} : trimStart t = [] ↔ isBlankLine t = true := by
  rw [trimStart, List.dropWhile_eq_nil_iff, isBlankLine_iff]

theorem trimEnd_eq_nil_iff {t : Text} : trimEnd t = [] ↔ isBlankLine t = true := by
  rw [trimEnd, dropEndWhile_eq_rdropWhile, List.rdropWhile_eq_nil_iff, isBlankLine_iff]

theorem isBlankLine_trimStart_iff {t : Text} :
    isBlankLine (trimStart t) = true ↔ isBlankLine t = true := by
  constructor
  · intro blank
    cases left : trimStart t with
    | nil => exact trimStart_eq_nil_iff.1 left
    | cons c rest =>
        -- the first character that is kept is not blank
        have stopped := List.head?_dropWhile_not isBlank t
        rw [show t.dropWhile isBlank = c :: rest from left, List.head?_cons] at stopped
        have blankHead := isBlankLine_iff.1 blank c (by simp [left])
        exact absurd (blankHead.symm.trans stopped) (by decide)
  · intro blank
    rw [trimStart_eq_nil_iff.2 blank]
    rfl

theorem trim_eq_nil_iff {t : Text} : trim t = [] ↔ isBlankLine t = true := by
  rw [trim, trimEnd_eq_nil_iff, isBlankLine_trimStart_iff]

theorem not_isBlank_getLast_trim {t : Text} (nonempty : trim t ≠ []) :
    isBlank ((trim t).getLast nonempty) = false := by
  have stopped := List.rdropWhile_last_not isBlank (trimStart t) nonempty
  exact Bool.eq_false_iff.2 stopped

theorem trim_ne_nil_of_suffix {t ending : Text} (suffix : ending <:+ trim t)
    (nonempty : ending ≠ []) : trim ending ≠ [] := by
  intro blank
  have whole : trim t ≠ [] := fun empty => nonempty (List.suffix_nil.1 (empty ▸ suffix))
  have last : (trim t).getLast whole = ending.getLast nonempty := (suffix.getLast nonempty).symm
  have blankLast := isBlankLine_iff.1 (trim_eq_nil_iff.1 blank) _ (List.getLast_mem nonempty)
  rw [← last, not_isBlank_getLast_trim whole] at blankLast
  cases blankLast

/-! ### Runs at the ends of a text -/

section Runs
variable {p : Char → Bool}

theorem dropWhile_append_stop {c : Char} (stop : p c = false) (before rest : Text) :
    (before ++ c :: rest).dropWhile p = before.dropWhile p ++ c :: rest := by
  induction before with
  | nil => simp [stop]
  | cons d before ih =>
      by_cases skipped : p d = true
      · simpa [skipped] using ih
      · simp [skipped]

theorem dropEndWhile_append {solid back : Text} (nonempty : solid ≠ [])
    (kept : ∀ c ∈ solid, p c = false) (dropped : ∀ c ∈ back, p c = true) (front : Text) :
    dropEndWhile p (front ++ solid ++ back) = front ++ solid := by
  obtain ⟨c, rest, last⟩ := List.exists_cons_of_ne_nil (mt List.reverse_eq_nil_iff.1 nonempty)
  have stop : p c = false := kept c (List.mem_reverse.1 (last ▸ List.mem_cons_self))
  have backDropped : ∀ d ∈ back.reverse, p d = true := fun d member =>
    dropped d (List.mem_reverse.1 member)
  rw [dropEndWhile, List.reverse_append, List.dropWhile_append_of_pos backDropped,
    List.reverse_append, last, List.cons_append, List.dropWhile_cons_of_neg (by simp [stop]),
    ← List.cons_append, ← last, ← List.reverse_append, List.reverse_reverse]

end Runs

theorem trim_trimStart (t : Text) : trim (trimStart t) = trim t := by
  rw [trim, trim, trimStart, trimStart, List.dropWhile_idempotent]

theorem trim_cons_of_isBlank {c : Char} (blank : isBlank c = true) (t : Text) :
    trim (c :: t) = trim t := by
  rw [trim, trim, trimStart, trimStart, List.dropWhile_cons_of_pos blank]

theorem trimStart_append_of_solid {blanks : Text} (blank : isBlankLine blanks = true) {c : Char}
    (solid : isBlank c = false) (rest : Text) : trimStart (blanks ++ c :: rest) = c :: rest := by
  rw [trimStart, List.dropWhile_append_of_pos (isBlankLine_iff.1 blank)]
  exact List.dropWhile_cons_of_neg (by simp [solid])

theorem exists_blanks_trimStart (t : Text) :
    ∃ blanks, isBlankLine blanks = true ∧ t = blanks ++ trimStart t :=
  ⟨t.takeWhile isBlank, List.all_takeWhile, List.takeWhile_append_dropWhile.symm⟩

/-! ### Trimmed texts -/

theorem trim_prefix_trimStart (t : Text) : trim t <+: trimStart t := by
  rw [trim, trimEnd, dropEndWhile_eq_rdropWhile]
  exact List.rdropWhile_prefix isBlank (trimStart t)

theorem trim_isInfix (t : Text) : trim t <:+: t :=
  (trim_prefix_trimStart t).isInfix.trans (List.dropWhile_suffix isBlank).isInfix

theorem not_isBlank_of_trim_eq_cons {t rest : Text} {c : Char} (split : trim t = c :: rest) :
    isBlank c = false := by
  obtain ⟨dropped, whole⟩ := trim_prefix_trimStart t
  rw [split, List.cons_append] at whole
  have stopped := List.head?_dropWhile_not isBlank t
  rw [show t.dropWhile isBlank = c :: (rest ++ dropped) from whole.symm, List.head?_cons] at stopped
  exact stopped

theorem not_isBlank_of_trim_eq_concat {t front : Text} {c : Char} (split : trim t = front ++ [c]) :
    isBlank c = false := by
  have nonempty : trim t ≠ [] := by simp [split]
  have last := not_isBlank_getLast_trim nonempty
  simpa [split] using last

theorem trim_eq_self {t : Text} (first : ∀ c rest, t = c :: rest → isBlank c = false)
    (last : ∀ front c, t = front ++ [c] → isBlank c = false) : trim t = t := by
  have start : trimStart t = t := by
    cases t with
    | nil => rfl
    | cons c rest => simp [trimStart, first c rest rfl]
  rw [trim, start, trimEnd, dropEndWhile_eq_rdropWhile, List.rdropWhile_eq_self_iff]
  intro nonempty blank
  have split := (List.dropLast_append_getLast nonempty).symm
  rw [last _ _ split] at blank
  cases blank

theorem trim_trim (t : Text) : trim (trim t) = trim t :=
  trim_eq_self (fun _ _ split => not_isBlank_of_trim_eq_cons split)
    fun _ _ split => not_isBlank_of_trim_eq_concat split

end BuildLog.Text

/-! ## Filled texts

A text is filled when it says something and has no blanks around it, which shows at its two ends
alone.  Blanks that are put around a filled text are what trimming takes away.
-/

namespace BuildLog

open Text

/-- A text that says something and has no blanks around it. -/
structure Filled (t : Text) : Prop where
  nonempty : t ≠ []
  trimmed : trim t = t

namespace Filled

theorem of_forall {t : Text} (nonempty : t ≠ []) (solid : ∀ c ∈ t, isBlank c = false) :
    Filled t := by
  refine ⟨nonempty, trim_eq_self ?first ?last⟩
  case first =>
    rintro c rest rfl
    exact solid c List.mem_cons_self
  case last =>
    rintro front c rfl
    exact solid c (List.mem_append_right front (List.mem_singleton_self c))

section Ends
variable {t : Text} (filled : Filled t)
include filled

theorem isBlankLine_eq_false : isBlankLine t = false := by
  rw [Bool.eq_false_iff, ne_eq, ← trim_eq_nil_iff, filled.trimmed]
  exact filled.nonempty

theorem exists_first : ∃ c rest, t = c :: rest ∧ isBlank c = false := by
  obtain ⟨c, rest, split⟩ := List.exists_cons_of_ne_nil filled.nonempty
  exact ⟨c, rest, split, not_isBlank_of_trim_eq_cons (filled.trimmed.trans split)⟩

theorem exists_last : ∃ front c, t = front ++ [c] ∧ isBlank c = false := by
  have split := (List.dropLast_append_getLast filled.nonempty).symm
  exact ⟨_, _, split, not_isBlank_of_trim_eq_concat (filled.trimmed.trans split)⟩

theorem trimStart_eq : trimStart t = t := by
  obtain ⟨c, rest, rfl, solid⟩ := filled.exists_first
  exact List.dropWhile_cons_of_neg (by simp [solid])

theorem trim_between {front back : Text} (blankFront : isBlankLine front = true)
    (blankBack : isBlankLine back = true) : trim (front ++ t ++ back) = t := by
  obtain ⟨before, c, rfl, solid⟩ := filled.exists_last
  have start : trimStart (front ++ (before ++ [c]) ++ back) = before ++ [c] ++ back := by
    obtain ⟨d, rest, split, firstSolid⟩ := filled.exists_first
    rw [split, trimStart, List.append_assoc, List.dropWhile_append_of_pos (isBlankLine_iff.1 blankFront),
      List.cons_append, List.dropWhile_cons_of_neg (by simp [firstSolid])]
  have last : ∀ d ∈ [c], isBlank d = false := by simp [solid]
  rw [trim, start]
  exact dropEndWhile_append (List.cons_ne_nil c []) last (isBlankLine_iff.1 blankBack) before

end Ends

theorem of_append {first last : Text} (nonempty : first ≠ []) (start : trimStart first = first)
    (filled : Filled last) : Filled (first ++ last) := by
  obtain ⟨front, d, rfl, solid⟩ := filled.exists_last
  refine ⟨by simp, trim_eq_self ?first ?last⟩
  case first =>
    intro c rest split
    obtain ⟨e, more, rfl⟩ := List.exists_cons_of_ne_nil nonempty
    obtain ⟨rfl, -⟩ := List.cons.inj split
    have stopped := List.head?_dropWhile_not isBlank (e :: more)
    rwa [show (e :: more).dropWhile isBlank = e :: more from start, List.head?_cons] at stopped
  case last =>
    intro more c split
    rw [← List.append_assoc] at split
    obtain rfl := List.singleton_inj.1 (List.append_inj_right' split rfl)
    exact solid

theorem append {first last : Text} (one : Filled first) (other : Filled last) (middle : Text) :
    Filled (first ++ middle ++ last) := by
  obtain ⟨c, rest, rfl, solid⟩ := one.exists_first
  exact of_append (by simp) (List.dropWhile_cons_of_neg (by simp [solid])) other

end Filled

end BuildLog
