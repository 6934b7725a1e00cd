import BuildLog.Proofs.Text.Pieces
import BuildLog.Recognizer.Parts
import Mathlib.Data.List.Infix

/-!
# Marks and parentheses

Where a printed text is cut again.
-/

set_option autoImplicit false

/-! ## Where a mark stands first

A text is cut at the first place where a mark stands.  In front of a printed mark it may stand
already, inside the text there or across the seam.  Across the seam it stands only when an end of
the mark is also its start, so a mark that does not overlap itself is found where it was printed as
soon as the text in front of it is free of it.
-/

namespace BuildLog.Text

/-! ### Marks in an appended text -/

section Infix
variable {mark first second : Text}

theorem not_infix_of_not_mem {c : Char} (needed : c ∈ mark) {t : Text} (absent : c ∉ t) :
    ¬ mark <:+: t :=
  fun inside => absent (inside.subset needed)

theorem prefix_of_prefix_append_cons {stop : Char} (absent : stop ∉ mark)
    (starts : mark <+: first ++ stop :: second) : mark <+: first := by
  rcases List.prefix_or_prefix_of_prefix starts (List.prefix_append first (stop :: second)) with
    short | long
  · exact short
  · obtain ⟨more, rfl⟩ := long
    rw [List.prefix_append_right_inj] at starts
    cases more with
    | nil => simp
    | cons c more =>
        obtain ⟨rfl, -⟩ := List.cons_prefix_cons.1 starts
        simp at absent

theorem infix_or_infix_of_append_cons {stop : Char} (absent : stop ∉ mark)
    (inside : mark <:+: first ++ stop :: second) : mark <:+: first ∨ mark <:+: second := by
  induction first with
  | nil =>
      rcases List.infix_cons_iff.1 inside with starts | later
      · have nothing : mark <+: [] := prefix_of_prefix_append_cons absent starts
        exact .inl nothing.isInfix
      · exact .inr later
  | cons c first ih =>
      rcases List.infix_cons_iff.1 inside with starts | later
      · have here : mark <+: c :: first := prefix_of_prefix_append_cons absent starts
        exact .inl here.isInfix
      · rcases ih later with here | there
        · exact .inl (List.infix_cons here)
        · exact .inr there

theorem infix_of_infix_append {c : Char} (absent : c ∉ first)
    (inside : c :: mark <:+: first ++ second) : c :: mark <:+: second := by
  induction first with
  | nil => exact inside
  | cons d first ih =>
      obtain ⟨other, later⟩ := List.ne_and_not_mem_of_not_mem_cons absent
      rcases List.infix_cons_iff.1 inside with starts | behind
      · exact absurd (List.cons_prefix_cons.1 starts).1 other
      · exact ih later behind

end Infix

/-! ### Cuts at a printed mark -/

/-- No end of the mark with more than `k` characters is also its start. -/
def OverlapsUpTo (k : Nat) (mark : Text) : Prop :=
  ∀ n < mark.length, 0 < n → n + k < mark.length → ¬ mark.drop n <+: mark

instance (k : Nat) (mark : Text) : Decidable (OverlapsUpTo k mark) :=
  inferInstanceAs (Decidable (∀ n < mark.length, _))

section Cut
variable {mark t : Text}

theorem after?_eq_none_iff : after? mark t = none ↔ ¬ mark <+: t := by
  rw [← startsWith_iff, startsWith, Option.not_isSome_iff_eq_none]

theorem cut?_eq_none_iff : cut? mark t = none ↔ ¬ mark <:+: t := by
  rw [← occursIn_iff, occursIn, Option.not_isSome_iff_eq_none]

theorem cutLowered?_eq_none_iff : cutLowered? mark t = none ↔ ¬ mark <:+: lowered t := by
  rw [cutLowered?, Option.map_eq_none_iff, cut?_eq_none_iff]

theorem cut?_cons_of_not_isPrefix {c : Char} (other : ¬ mark <+: c :: t) :
    cut? mark (c :: t) = (cut? mark t).map fun sides => (c :: sides.1, sides.2) := by
  rw [cut?, after?_eq_none_iff.2 other]

theorem cut?_append_of_not_mem {c : Char} {front : Text} (absent : c ∉ front) (t : Text) :
    cut? (c :: mark) (front ++ t) =
      (cut? (c :: mark) t).map fun sides => (front ++ sides.1, sides.2) := by
  induction front with
  | nil => simp
  | cons d front ih =>
      obtain ⟨different, later⟩ := List.ne_and_not_mem_of_not_mem_cons absent
      have other : ¬ c :: mark <+: d :: (front ++ t) := fun starts =>
        different (List.cons_prefix_cons.1 starts).1
      rw [List.cons_append, cut?_cons_of_not_isPrefix other, ih later, Option.map_map]
      rfl

end Cut

section Printed
variable {k : Nat} {mark before : Text}

/-- A printed mark does not start earlier, across the seam. -/
theorem not_prefix_append_mark (overlaps : OverlapsUpTo k mark) (some : before ≠ [])
    (fresh : ¬ mark <+: before ++ mark.take k) (rest : Text) :
    ¬ mark <+: before ++ mark ++ rest := by
  intro starts
  by_cases short : before.length + k < mark.length
  · -- the mark reaches over the seam, with more than `k` characters behind it
    have seam : mark.drop before.length <+: mark ++ rest := by
      have dropped := List.IsPrefix.drop starts before.length
      rwa [List.append_assoc, List.drop_left] at dropped
    have own : mark.drop before.length <+: mark :=
      List.prefix_of_prefix_length_le seam (List.prefix_append mark rest) (by simp)
    exact overlaps before.length (by omega) (List.length_pos_iff.2 some) short own
  · have within : before ++ mark.take k <+: before ++ mark ++ rest := by
      rw [List.append_assoc, List.prefix_append_right_inj]
      exact (List.take_prefix k mark).trans (List.prefix_append mark rest)
    apply fresh
    apply List.prefix_of_prefix_length_le starts within
    rw [List.length_append, List.length_take]
    omega

/-- A mark is found where it is printed when nothing in front of it, together with as much of the
mark as can overlap, holds it. -/
theorem cut?_append_mark (overlaps : OverlapsUpTo k mark)
    (fresh : ¬ mark <:+: before ++ mark.take k) (rest : Text) :
    cut? mark (before ++ mark ++ rest) = some (before, rest) := by
  induction before with
  | nil => exact cut?_append mark rest
  | cons c before ih =>
      have later := ih fun inside => fresh (List.infix_cons inside)
      have notHere := not_prefix_append_mark overlaps (List.cons_ne_nil c before)
        (fun starts => fresh starts.isInfix) rest
      rw [List.cons_append, List.cons_append] at notHere ⊢
      rw [cut?_cons_of_not_isPrefix notHere, later, Option.map_some]

section Apart
variable (overlaps : OverlapsUpTo 0 mark)
include overlaps

theorem cut?_append_fresh (fresh : ¬ mark <:+: before) (rest : Text) :
    cut? mark (before ++ mark ++ rest) = some (before, rest) := by
  apply cut?_append_mark overlaps
  rwa [List.take_zero, List.append_nil]

theorem cutLowered?_append_fresh {spelled : Text} (spelling : lowered spelled = mark)
    (fresh : ¬ mark <:+: lowered before) (rest : Text) :
    cutLowered? mark (before ++ spelled ++ rest) = some (before, rest) := by
  have cut := cut?_append_fresh overlaps fresh (lowered rest)
  have length : (before ++ spelled).length = (lowered before).length + mark.length := by
    rw [← spelling, List.length_append, length_lowered, length_lowered]
  rw [cutLowered?, lowered_append, lowered_append, spelling, cut, Option.map_some, ← length,
    List.drop_left, length_lowered, List.append_assoc, List.take_left]

end Apart

theorem cut?_singleton {c : Char} (absent : c ∉ before) (rest : Text) :
    cut? [c] (before ++ c :: rest) = some (before, rest) := by
  have overlaps : OverlapsUpTo 0 [c] := by
    intro n inside positive
    rw [List.length_singleton] at inside
    omega
  have fresh : ¬ [c] <:+: before := not_infix_of_not_mem (List.mem_singleton_self c) absent
  simpa using cut?_append_fresh overlaps fresh rest

theorem cut?_singleton_eq_some_iff {c : Char} {t before rest : Text} :
    cut? [c] t = some (before, rest) ↔ t = before ++ c :: rest ∧ c ∉ before := by
  constructor
  · intro found
    refine ⟨by simpa using eq_of_cut? found, fun inside => ?_⟩
    obtain ⟨front, back, rfl, absent⟩ := List.eq_append_cons_of_mem inside
    rw [eq_of_cut? found, List.append_assoc, List.append_assoc, List.cons_append,
      cut?_singleton absent] at found
    have same : front = front ++ c :: back := congrArg Prod.fst (Option.some.inj found)
    simp at same
  · rintro ⟨rfl, absent⟩
    exact cut?_singleton absent rest

theorem eq_of_split_at_first {c : Char} {t front back other rest : Text}
    (split : t = front ++ c :: back) (first : c ∉ front) (otherSplit : t = other ++ c :: rest)
    (otherFirst : c ∉ other) : front = other ∧ back = rest := by
  have found := cut?_singleton_eq_some_iff.2 ⟨split, first⟩
  rw [cut?_singleton_eq_some_iff.2 ⟨otherSplit, otherFirst⟩] at found
  cases found
  exact ⟨rfl, rfl⟩

theorem cutLowered?_append_self {spelled : Text} (spelling : lowered spelled = mark) (rest : Text) :
    cutLowered? mark (spelled ++ rest) = some ([], rest) := by
  have length : mark.length = spelled.length := by
    rw [← spelling, length_lowered]
  rw [cutLowered?, lowered_append, spelling, cut?_append, Option.map_some, List.length_nil,
    Nat.zero_add, length, List.drop_left, List.take_zero]

theorem cutLowered?_append {front t : Text}
    (passed : cut? mark (lowered front ++ lowered t) =
      (cut? mark (lowered t)).map fun sides => (lowered front ++ sides.1, sides.2)) :
    cutLowered? mark (front ++ t) =
      (cutLowered? mark t).map fun sides => (front ++ sides.1, sides.2) := by
  rw [cutLowered?, lowered_append, passed, cutLowered?, Option.map_map, Option.map_map]
  congr 1
  funext sides
  simp [length_lowered, Nat.add_assoc, List.take_length_add_append]

end Printed

/-! ### Tails that are cut away -/

theorem cutBefore_append {p : Text → Bool} {front back : Text} (found : p back = true)
    (nonempty : back ≠ [])
    (earlier : ∀ ending, ending ≠ [] → ending <:+ front → p (ending ++ back) = false) :
    cutBefore p (front ++ back) = front := by
  induction front with
  | nil =>
      obtain ⟨c, rest, rfl⟩ := List.exists_cons_of_ne_nil nonempty
      rw [List.nil_append, cutBefore, if_pos found]
  | cons c front ih =>
      have notHere := earlier (c :: front) (List.cons_ne_nil c front) (List.suffix_refl _)
      have later := ih fun ending some suffix =>
        earlier ending some (suffix.trans (List.suffix_cons c front))
      rw [List.cons_append] at notHere ⊢
      rw [cutBefore, if_neg (by simp [notHere]), later]

theorem cutBefore_eq_self {p : Text → Bool} {t : Text}
    (never : ∀ ending, ending <:+ t → p ending = false) : cutBefore p t = t := by
  induction t with
  | nil => rfl
  | cons c t ih =>
      have later := ih fun ending suffix => never ending (suffix.trans (List.suffix_cons c t))
      rw [cutBefore, if_neg (by simp [never (c :: t) (List.suffix_refl _)]), later]

end BuildLog.Text

/-! ## Parentheses in a text

A group is looked for from the right: it ends at the last closing parenthesis and starts at the last
opening one before it.  When the text in a group has parentheses of its own, the group that is found
starts at the last of these, even when they are balanced.
-/

namespace BuildLog

namespace Text

/-- Nowhere are more parentheses closed than opened, and at the end all are closed. -/
def Balanced (t : Text) : Prop :=
  (∀ n ≤ t.length, (t.take n).count ')' ≤ (t.take n).count '(') ∧ t.count '(' = t.count ')'

instance (t : Text) : Decidable (Balanced t) :=
  inferInstanceAs (Decidable (_ ∧ _))

def behindOpening (t : Text) : Text :=
  ((cutLast? '(' t).map Prod.snd).getD t

section Opening
variable {t front rest : Text}

theorem behindOpening_of_not_mem (absent : '(' ∉ t) : behindOpening t = t := by
  rw [behindOpening, cutLast?_eq_none_iff.2 absent]
  rfl

theorem behindOpening_of_split (split : t = front ++ '(' :: rest) (absent : '(' ∉ rest) :
    behindOpening t = rest := by
  rw [behindOpening, cutLast?_eq_some_iff.2 ⟨split, absent⟩]
  rfl

theorem exists_split_of_mem (member : '(' ∈ t) :
    ∃ front rest, t = front ++ '(' :: rest ∧ '(' ∉ rest ∧ behindOpening t = rest := by
  cases found : cutLast? '(' t with
  | none => exact absurd member (cutLast?_eq_none_iff.1 found)
  | some sides =>
      obtain ⟨split, absent⟩ := cutLast?_eq_some_iff.1 found
      exact ⟨sides.1, sides.2, split, absent, behindOpening_of_split split absent⟩

theorem not_mem_behindOpening (t : Text) : '(' ∉ behindOpening t := by
  by_cases member : '(' ∈ t
  · obtain ⟨front, rest, -, absent, behind⟩ := exists_split_of_mem member
    rwa [behind]
  · rwa [behindOpening_of_not_mem member]

/-- Of a balanced text some part is left behind the last opening parenthesis: the closing one that
belongs to it. -/
theorem Balanced.mem_behindOpening (balanced : Balanced t) (member : '(' ∈ t) :
    ')' ∈ behindOpening t := by
  obtain ⟨front, rest, rfl, absent, behind⟩ := exists_split_of_mem member
  have before := balanced.1 front.length (by simp)
  have total := balanced.2
  rw [List.take_left] at before
  rw [List.count_append, List.count_cons_self, List.count_eq_zero_of_not_mem absent,
    List.count_append, List.count_cons_of_ne (by decide)] at total
  rw [behind]
  exact List.count_pos_iff.1 (by omega)

end Opening

end Text

open Text

theorem Location.lastGroup?_append (front : Text) {inside : Text} (plain : '(' ∉ inside) :
    lastGroup? (front ++ '(' :: inside ++ [')']) = some (front, inside) := by
  have closing : cutLast? ')' (front ++ '(' :: inside ++ [')']) =
      some (front ++ '(' :: inside, []) :=
    cutLast?_eq_some_iff.2 ⟨rfl, List.not_mem_nil⟩
  rw [lastGroup?, closing]
  exact cutLast?_eq_some_iff.2 ⟨rfl, plain⟩

theorem Location.lastGroup?_of_ending (before path : Text) {place : Text} (plain : '(' ∉ place) :
    ∃ front, lastGroup? (before ++ '(' :: (path ++ place) ++ [')']) =
      some (front, behindOpening path ++ place) := by
  by_cases member : '(' ∈ path
  · obtain ⟨front, rest, rfl, absent, behind⟩ := exists_split_of_mem member
    have inside : '(' ∉ rest ++ place := by simp [absent, plain]
    have group := lastGroup?_append (before ++ '(' :: front) inside
    refine ⟨before ++ '(' :: front, ?_⟩
    rw [behind]
    simpa using group
  · refine ⟨before, ?_⟩
    rw [behindOpening_of_not_mem member]
    exact lastGroup?_append before (by simp [member, plain])

end BuildLog
