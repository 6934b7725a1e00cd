import BuildLog.Proofs.Text.Trimming
import BuildLog.Recognizer.Parts

/-!
# Pieces of a text

Recognizers only cut.  What a cut, a trim or a reading leaves of a text stands in that text as it
is, so what is cut from a line of the output is a piece of this line, however often it is cut.
-/

set_option autoImplicit false

namespace BuildLog

namespace Text

section Cuts
variable {t before rest : Text}

theorem suffix_of_after? {mark : Text} (found : after? mark t = some rest) : rest <:+ t :=
  ⟨mark, (after?_eq_some_iff.1 found).symm⟩

theorem getD_after?_suffix (mark t : Text) : (after? mark t).getD t <:+ t := by
  cases found : after? mark t with
  | none => exact List.suffix_refl t
  | some rest => exact suffix_of_after? found

theorem sides_of_cut? {mark : Text} (found : cut? mark t = some (before, rest)) :
    before <+: t ∧ rest <:+ t := by
  have split := eq_of_cut? found
  exact ⟨⟨mark ++ rest, by rw [split, List.append_assoc]⟩, ⟨before ++ mark, split.symm⟩⟩

theorem after?_append (mark rest : Text) : after? mark (mark ++ rest) = some rest :=
  after?_eq_some_iff.2 rfl

theorem cut?_append (mark rest : Text) : cut? mark (mark ++ rest) = some ([], rest) := by
  have here := after?_append mark rest
  cases whole : mark ++ rest with
  | nil =>
      rw [whole] at here
      rw [cut?, here, Option.map_some]
  | cons c t =>
      rw [whole] at here
      rw [cut?, here]

theorem lowered_append (first second : Text) :
    lowered (first ++ second) = lowered first ++ lowered second :=
  List.map_append

theorem eq_of_cutLowered? {mark : Text} (found : cutLowered? mark t = some (before, rest)) :
    ∃ spelled, t = before ++ spelled ++ rest ∧ lowered spelled = mark := by
  obtain ⟨sides, cut, same⟩ := Option.map_eq_some_iff.1 found
  cases same
  have split := eq_of_cut? cut
  refine ⟨(t.drop sides.1.length).take mark.length, ?_, ?_⟩
  · rw [← List.drop_drop, List.append_assoc, List.take_append_drop, List.take_append_drop]
  · rw [lowered, List.map_take, List.map_drop, ← lowered, split, List.append_assoc,
      List.drop_left, List.take_left]

theorem sides_of_cutLowered? {mark : Text} (found : cutLowered? mark t = some (before, rest)) :
    before <+: t ∧ rest <:+ t := by
  obtain ⟨spelled, split, -⟩ := eq_of_cutLowered? found
  exact ⟨⟨spelled ++ rest, by rw [split, List.append_assoc]⟩, ⟨before ++ spelled, split.symm⟩⟩

theorem afterLowered?_eq_some_iff {mark : Text} :
    afterLowered? mark t = some rest ↔ ∃ spelled, t = spelled ++ rest ∧ lowered spelled = mark := by
  constructor
  · intro found
    obtain ⟨behind, marked, same⟩ := Option.map_eq_some_iff.1 found
    refine ⟨t.take mark.length, ?_, ?_⟩
    · rw [← same, List.take_append_drop]
    · rw [lowered, List.map_take, ← lowered, after?_eq_some_iff.1 marked, List.take_left]
  · rintro ⟨spelled, rfl, rfl⟩
    rw [afterLowered?, lowered_append, after?_append, Option.map_some, length_lowered,
      List.drop_left]

theorem dropEndWhile_isPrefix (p : Char → Bool) (t : Text) : dropEndWhile p t <+: t := by
  rw [dropEndWhile_eq_rdropWhile]
  exact List.rdropWhile_prefix p t

theorem trimStart_suffix (t : Text) : trimStart t <:+ t :=
  List.dropWhile_suffix isBlank

end Cuts

theorem splitOn_append_cons {separator : Char} {part : Text} (absent : separator ∉ part)
    (rest : Text) :
    (part ++ separator :: rest).splitOn separator = part :: rest.splitOn separator := by
  rw [List.splitOn_append_cons_self, List.splitOn_eq_singleton absent, List.singleton_append]

theorem eq_of_splitOn {t part : Text} {separator : Char} {parts : List Text}
    (split : t.splitOn separator = part :: parts) :
    separator ∉ part ∧
      ((t = part ∧ parts = []) ∨
        ∃ rest, t = part ++ separator :: rest ∧ rest.splitOn separator = parts) := by
  by_cases inside : separator ∈ t
  · obtain ⟨front, back, same, absent⟩ := List.eq_append_cons_of_mem inside
    rw [same, splitOn_append_cons absent] at split
    cases split
    exact ⟨absent, .inr ⟨back, same, rfl⟩⟩
  · rw [List.splitOn_eq_singleton inside] at split
    cases split
    exact ⟨inside, .inl ⟨rfl, rfl⟩⟩

theorem piece_of_mem_splitOn {t : Text} {separator : Char} {piece : Text}
    (member : piece ∈ t.splitOn separator) : separator ∉ piece ∧ piece <:+: t := by
  generalize split : t.splitOn separator = parts at member
  induction parts generalizing t with
  | nil => cases member
  | cons part parts ih =>
      obtain ⟨absent, ⟨rfl, rfl⟩ | ⟨rest, rfl, later⟩⟩ := eq_of_splitOn split
      · obtain rfl := List.mem_singleton.1 member
        exact ⟨absent, List.infix_refl _⟩
      · rcases List.mem_cons.1 member with rfl | inside
        · exact ⟨absent, [], separator :: rest, by simp⟩
        · obtain ⟨absentInside, behind⟩ := ih later inside
          exact ⟨absentInside, behind.trans ⟨part ++ [separator], [], by simp⟩⟩

end Text

open Text

/-! ## Locations -/

namespace Location

theorem parts?_eq_some_iff {t path line column : Text} :
    parts? t = some (path, line, column) ↔
      t = path ++ ':' :: line ++ ':' :: column ∧ ':' ∉ line ∧ ':' ∉ column := by
  simp only [parts?, Option.bind_eq_bind, Option.bind_eq_some_iff]
  constructor
  · rintro ⟨⟨front, last⟩, outer, ⟨start, middle⟩, inner, same⟩
    cases same
    have splitFront : front = start ++ ':' :: middle := (cutLast?_eq_some_iff.1 inner).1
    refine ⟨?_, (cutLast?_eq_some_iff.1 inner).2, (cutLast?_eq_some_iff.1 outer).2⟩
    rw [(cutLast?_eq_some_iff.1 outer).1, splitFront]
  · rintro ⟨rfl, noneInLine, noneInColumn⟩
    exact ⟨(path ++ ':' :: line, column), cutLast?_eq_some_iff.2 ⟨rfl, noneInColumn⟩,
      (path, line), cutLast?_eq_some_iff.2 ⟨rfl, noneInLine⟩, rfl⟩

end Location

end BuildLog
