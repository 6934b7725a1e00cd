/-!
# Texts and where they are cut

A text is the list of its characters.  Recognizers never index into a text: they cut it at a mark
and go on with the two sides, so every statement about what they keep is a statement about
appending lists.
-/

set_option autoImplicit false

namespace BuildLog

abbrev Text := List Char

namespace Text

def after? (mark t : Text) : Option Text :=
  mark.isPrefixOf? t

theorem after?_nil (t : Text) : after? [] t = some t :=
  rfl

theorem after?_cons_nil (c : Char) (mark : Text) : after? (c :: mark) [] = none :=
  rfl

theorem after?_cons_cons (c d : Char) (mark t : Text) :
    after? (c :: mark) (d :: t) = if c == d then after? mark t else none :=
  rfl

theorem after?_eq_some_iff {mark t rest : Text} :
    after? mark t = some rest ↔ t = mark ++ rest := by
  induction mark generalizing t with
  | nil => simp [after?_nil]
  | cons c mark ih =>
      cases t with
      | nil => simp [after?_cons_nil]
      | cons d t =>
          by_cases same : c = d
          · subst same
            simpa [after?_cons_cons] using ih
          · simp [after?_cons_cons, same, Ne.symm same]

def startsWith (mark t : Text) : Bool :=
  (after? mark t).isSome

theorem startsWith_iff {mark t : Text} : startsWith mark t = true ↔ mark <+: t := by
  simp only [startsWith, Option.isSome_iff_exists, after?_eq_some_iff]
  exact ⟨fun ⟨rest, split⟩ => ⟨rest, split.symm⟩, fun ⟨rest, split⟩ => ⟨rest, split.symm⟩⟩

def endsWith (mark t : Text) : Bool :=
  mark.isSuffixOf t

def cut? (mark : Text) : Text → Option (Text × Text)
  | [] => (after? mark []).map fun rest => ([], rest)
  | c :: t =>
    match after? mark (c :: t) with
    | some rest => some ([], rest)
    | none => (cut? mark t).map fun sides => (c :: sides.1, sides.2)

theorem eq_of_cut? {mark t before rest : Text} (found : cut? mark t = some (before, rest)) :
    t = before ++ mark ++ rest := by
  induction t generalizing before with
  | nil =>
      obtain ⟨tail, here, same⟩ := Option.map_eq_some_iff.1 found
      cases same
      exact after?_eq_some_iff.1 here
  | cons c t ih =>
      rw [cut?] at found
      split at found
      · next tail here =>
          cases found
          exact after?_eq_some_iff.1 here
      · obtain ⟨sides, later, same⟩ := Option.map_eq_some_iff.1 found
        cases same
        simpa using ih later

theorem cut?_eq_none {mark t : Text} (missing : cut? mark t = none) : ¬ mark <:+: t := by
  induction t with
  | nil =>
      rintro ⟨left, right, split⟩
      simp only [List.append_eq_nil_iff] at split
      obtain ⟨⟨-, rfl⟩, -⟩ := split
      simp [cut?, after?_nil] at missing
  | cons c t ih =>
      rw [cut?] at missing
      split at missing
      · cases missing
      · next notHere =>
          have later := ih (by simpa using missing)
          rintro ⟨left, right, split⟩
          cases left with
          | nil =>
              have here : after? mark (c :: t) = some right := by
                rw [after?_eq_some_iff]
                simpa using split.symm
              rw [notHere] at here
              cases here
          | cons d left =>
              simp only [List.cons_append, List.cons.injEq] at split
              exact later ⟨left, right, split.2⟩

def occursIn (mark t : Text) : Bool :=
  (cut? mark t).isSome

theorem occursIn_iff {mark t : Text} : occursIn mark t = true ↔ mark <:+: t := by
  constructor
  · intro present
    obtain ⟨⟨before, rest⟩, found⟩ := Option.isSome_iff_exists.1 present
    exact ⟨before, rest, (eq_of_cut? found).symm⟩
  · intro inside
    cases found : cut? mark t with
    | none => exact absurd inside (cut?_eq_none found)
    | some sides => simp [occursIn, found]

/-- The two sides of the last place where the character stands. -/
def cutLast? (mark : Char) : Text → Option (Text × Text)
  | [] => none
  | c :: t =>
    match cutLast? mark t with
    | some (before, rest) => some (c :: before, rest)
    | none => if c = mark then some ([], t) else none

theorem cutLast?_eq_none_iff {mark : Char} {t : Text} : cutLast? mark t = none ↔ mark ∉ t := by
  induction t with
  | nil => simp [cutLast?]
  | cons c t ih =>
      cases found : cutLast? mark t with
      | none =>
          by_cases same : c = mark
          · simp [cutLast?, found, same]
          · simp [cutLast?, found, same, Ne.symm same, ih.1 found]
      | some sides =>
          have inside : mark ∈ t := by
            by_cases inside : mark ∈ t
            · exact inside
            · rw [ih.2 inside] at found
              cases found
          simp [cutLast?, found, inside]

theorem cutLast?_append_cons {mark : Char} {rest : Text} (absent : mark ∉ rest) (before : Text) :
    cutLast? mark (before ++ mark :: rest) = some (before, rest) := by
  induction before with
  | nil =>
      rw [List.nil_append, cutLast?, cutLast?_eq_none_iff.2 absent]
      exact if_pos rfl
  | cons c before ih => rw [List.cons_append, cutLast?, ih]

theorem eq_of_cutLast? {mark : Char} {t before rest : Text}
    (found : cutLast? mark t = some (before, rest)) :
    t = before ++ mark :: rest ∧ mark ∉ rest := by
  induction t generalizing before rest with
  | nil => cases found
  | cons c t ih =>
      rw [cutLast?] at found
      split at found
      · next left right later =>
          cases found
          obtain ⟨split, absent⟩ := ih later
          exact ⟨by rw [split, List.cons_append], absent⟩
      · next none =>
          split at found
          · next here =>
              cases found
              exact ⟨by rw [here, List.nil_append], cutLast?_eq_none_iff.1 none⟩
          · cases found

theorem cutLast?_eq_some_iff {mark : Char} {t before rest : Text} :
    cutLast? mark t = some (before, rest) ↔ t = before ++ mark :: rest ∧ mark ∉ rest := by
  constructor
  · exact eq_of_cutLast?
  · rintro ⟨rfl, absent⟩
    exact cutLast?_append_cons absent before

def dropEndWhile (p : Char → Bool) (t : Text) : Text :=
  (t.reverse.dropWhile p).reverse

/-- Keeps what stands before the first suffix that satisfies `p`; all of it when none does. -/
def cutBefore (p : Text → Bool) : Text → Text
  | [] => []
  | c :: t => if p (c :: t) then [] else c :: cutBefore p t

theorem cutBefore_isPrefix (p : Text → Bool) (t : Text) : cutBefore p t <+: t := by
  induction t with
  | nil => exact List.prefix_refl _
  | cons c t ih =>
      unfold cutBefore
      split
      · exact List.nil_prefix
      · exact (List.prefix_cons_inj c).2 ih

/-- Lower case for the letters `A` to `Z`; every other character stays. -/
def lowered (t : Text) : Text :=
  t.map Char.toLower

theorem length_lowered (t : Text) : (lowered t).length = t.length := by
  simp [lowered]

/-- What follows `mark` in a text that begins with it in any ASCII case; `mark` itself is given in
lower case. -/
def afterLowered? (mark t : Text) : Option Text :=
  (after? mark (lowered t)).map fun _ => t.drop mark.length

/-- The two sides of the first place where `mark` stands in any ASCII case; `mark` itself is given
in lower case.  The sides keep the case they have in the text. -/
def cutLowered? (mark t : Text) : Option (Text × Text) :=
  (cut? mark (lowered t)).map fun sides =>
    (t.take sides.1.length, t.drop (sides.1.length + mark.length))

def spaced (first second : Text) : Text :=
  first ++ ' ' :: second

end Text

end BuildLog
