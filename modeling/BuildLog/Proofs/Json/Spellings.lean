import BuildLog.Proofs.Json.Tokens

/-!
# Spellings of a document

One value has many spellings, since blanks and line breaks may stand between its tokens: `Spells`
says which texts spell a value.  The reader finds the value of each of them, so both layouts, which
differ in what stands between the tokens only, are read back.
-/

set_option autoImplicit false

namespace BuildLog.Json

open Text

/-- What may stand between two tokens. -/
def Gap (t : Text) : Prop :=
  ∀ c ∈ t, isGap c = true

mutual

/-- The texts for a value: its tokens, with any gaps in front of them and between them. -/
inductive Spells : Json → Text → Prop
  | gap {value : Json} {before t : Text} : Gap before → Spells value t → Spells value (before ++ t)
  | null : Spells null "null".toList
  | true : Spells (bool true) "true".toList
  | false : Spells (bool false) "false".toList
  | natural (n : Nat) : Spells (natural n) (Numeral.render n)
  | string (t : Text) : Spells (string t) (writeString t)
  | emptyArray {gap : Text} : Gap gap → Spells (array []) ('[' :: (gap ++ [']']))
  | array {items : List Json} {t : Text} : SpellsItems items t → Spells (array items) ('[' :: t)
  | emptyObject {gap : Text} : Gap gap → Spells (object []) ('\x7b' :: (gap ++ ['\x7d']))
  | object {members : List (Text × Json)} {t : Text} :
      SpellsMembers members t → Spells (object members) ('\x7b' :: t)

inductive SpellsItems : List Json → Text → Prop
  | last {item : Json} {t behind : Text} :
      Spells item t → Gap behind → SpellsItems [item] (t ++ (behind ++ [']']))
  | more {item : Json} {items : List Json} {t behind rest : Text} :
      Spells item t → Gap behind → SpellsItems items rest →
        SpellsItems (item :: items) (t ++ (behind ++ ',' :: rest))

inductive SpellsMembers : List (Text × Json) → Text → Prop
  | last {name : Text} {value : Json} {before between t behind : Text} :
      Gap before → Gap between → Spells value t → Gap behind →
        SpellsMembers [(name, value)]
          (before ++ (writeString name ++ (between ++ ':' :: (t ++ (behind ++ ['\x7d'])))))
  | more {name : Text} {value : Json} {members : List (Text × Json)}
      {before between t behind rest : Text} :
      Gap before → Gap between → Spells value t → Gap behind → SpellsMembers members rest →
        SpellsMembers ((name, value) :: members)
          (before ++ (writeString name ++ (between ++ ':' :: (t ++ (behind ++ ',' :: rest)))))

end

/-! ## Gaps -/

theorem skipGap_append {gap : Text} (blank : Gap gap) (t : Text) : skipGap (gap ++ t) = skipGap t :=
  List.dropWhile_append_of_pos blank

theorem skipGap_cons {c : Char} (solid : isGap c = false) (rest : Text) :
    skipGap (c :: rest) = c :: rest := by
  simp [skipGap, solid]

theorem skipGap_gap_cons {gap : Text} (blank : Gap gap) {c : Char} (solid : isGap c = false)
    (rest : Text) : skipGap (gap ++ c :: rest) = c :: rest := by
  rw [skipGap_append blank, skipGap_cons solid]

variable {gap rest : Text} {fuel : Nat}

theorem readValue_gap (blank : Gap gap) (t : Text) :
    readValue fuel (gap ++ t) = readValue fuel t := by
  cases fuel with
  | zero => rfl
  | succ fuel => simp only [readValue, skipGap_append blank]

theorem isNumeric_of_isGap {c : Char} (blank : isGap c = true) : isNumeric c = false := by
  simp only [isGap, Bool.or_eq_true, decide_eq_true_eq] at blank
  rcases blank with ((rfl | rfl) | rfl) | rfl <;> decide

theorem endsNumber_gap (blank : Gap gap) : EndsNumber gap :=
  fun c front => isNumeric_of_isGap (blank c (List.mem_of_mem_head? front))

theorem endsNumber_gap_cons (blank : Gap gap) {c : Char} (other : isNumeric c = false) :
    EndsNumber (gap ++ c :: rest) := by
  intro d front
  rw [List.head?_append, Option.mem_def, Option.or_eq_some_iff] at front
  rcases front with front | ⟨-, front⟩
  · exact endsNumber_gap blank d front
  · cases front
    exact other

/-! ## One step of the reader -/

theorem isGap_of_isDigit {c : Char} (digit : c.isDigit = true) : isGap c = false := by
  cases blank : isGap c with
  | false => rfl
  | true => exact absurd (isNumeric_of_isDigit digit) (by simp [isNumeric_of_isGap blank])

theorem readValue_natural (n : Nat) (ends : EndsNumber rest) :
    readValue (fuel + 1) (Numeral.render n ++ rest) = some (natural n, rest) := by
  obtain ⟨d, digits, split, digit⟩ := Numeral.exists_first_digit n
  have number := readNumber_render n ends
  rw [split, List.cons_append] at number ⊢
  rw [readValue, skipGap_cons (isGap_of_isDigit digit)]
  split
  case h_7 => exact number
  -- every other case is a first character that is no digit
  all_goals
    next other =>
      cases other
      exact absurd digit (by decide)

theorem readValue_string (t : Text) :
    readValue (fuel + 1) (writeString t ++ rest) = some (string t, rest) := by
  simp only [writeString_append, readValue, skipGap_cons (by decide : isGap '"' = false),
    readString_flatMap_escapedChar]
  rfl

theorem readValue_emptyArray (blank : Gap gap) :
    readValue (fuel + 1) ('[' :: (gap ++ ']' :: rest)) = some (array [], rest) := by
  simp only [readValue, skipGap_cons (by decide : isGap '[' = false),
    skipGap_gap_cons blank (by decide : isGap ']' = false)]

theorem readItems_closed {t more : Text} (closed : skipGap t = ']' :: more) :
    readItems fuel t = none := by
  have nothing : ∀ fuel, readValue fuel t = none := by
    intro fuel
    cases fuel with
    | zero => rfl
    | succ fuel =>
        simp only [readValue, closed]
        rfl
  cases fuel with
  | zero => rfl
  | succ fuel =>
      simp only [readItems, nothing]
      rfl

theorem readValue_array {t : Text} {items : List Json}
    (found : readItems fuel t = some (items, rest)) :
    readValue (fuel + 1) ('[' :: t) = some (array items, rest) := by
  simp only [readValue, skipGap_cons (by decide : isGap '[' = false)]
  split
  · next closed =>
      rw [readItems_closed closed] at found
      cases found
  · rw [found]
    rfl

theorem readValue_emptyObject (blank : Gap gap) :
    readValue (fuel + 1) ('\x7b' :: (gap ++ '\x7d' :: rest)) = some (object [], rest) := by
  simp only [readValue, skipGap_cons (by decide : isGap '\x7b' = false),
    skipGap_gap_cons blank (by decide : isGap '\x7d' = false)]

theorem readMembers_closed {t more : Text} (closed : skipGap t = '\x7d' :: more) :
    readMembers fuel t = none := by
  cases fuel with
  | zero => rfl
  | succ fuel =>
      simp only [readMembers, closed]
      rfl

theorem readValue_object {t : Text} {members : List (Text × Json)}
    (found : readMembers fuel t = some (members, rest)) :
    readValue (fuel + 1) ('\x7b' :: t) = some (object members, rest) := by
  simp only [readValue, skipGap_cons (by decide : isGap '\x7b' = false)]
  split
  · next closed =>
      rw [readMembers_closed closed] at found
      cases found
  · rw [found]
    rfl

section Items
variable {item : Json} {items : List Json} {t behind : Text}

theorem readItems_last (found : readValue fuel t = some (item, behind ++ ']' :: rest))
    (blank : Gap behind) : readItems (fuel + 1) t = some ([item], rest) := by
  simp [readItems, found, skipGap_gap_cons blank (by decide : isGap ']' = false)]

theorem readItems_more {others : Text}
    (found : readValue fuel t = some (item, behind ++ ',' :: others)) (blank : Gap behind)
    (foundOthers : readItems fuel others = some (items, rest)) :
    readItems (fuel + 1) t = some (item :: items, rest) := by
  simp [readItems, found, skipGap_gap_cons blank (by decide : isGap ',' = false), foundOthers]

end Items

section Members
variable {name : Text} {value : Json} {members : List (Text × Json)}
  {before between t behind : Text}

theorem readMembers_last (blankBefore : Gap before) (blankBetween : Gap between)
    (found : readValue fuel t = some (value, behind ++ '\x7d' :: rest)) (blank : Gap behind) :
    readMembers (fuel + 1) (before ++ (writeString name ++ (between ++ ':' :: t))) =
      some ([(name, value)], rest) := by
  simp [readMembers, writeString_append, after?_cons_cons, after?_nil,
    skipGap_gap_cons blankBefore (by decide : isGap '"' = false), readString_flatMap_escapedChar,
    skipGap_gap_cons blankBetween (by decide : isGap ':' = false), found,
    skipGap_gap_cons blank (by decide : isGap '\x7d' = false)]

theorem readMembers_more {others : Text} (blankBefore : Gap before) (blankBetween : Gap between)
    (found : readValue fuel t = some (value, behind ++ ',' :: others)) (blank : Gap behind)
    (foundOthers : readMembers fuel others = some (members, rest)) :
    readMembers (fuel + 1) (before ++ (writeString name ++ (between ++ ':' :: t))) =
      some ((name, value) :: members, rest) := by
  simp [readMembers, writeString_append, after?_cons_cons, after?_nil,
    skipGap_gap_cons blankBefore (by decide : isGap '"' = false), readString_flatMap_escapedChar,
    skipGap_gap_cons blankBetween (by decide : isGap ':' = false), found,
    skipGap_gap_cons blank (by decide : isGap ',' = false), foundOthers]

end Members

/-! ## The reader on a spelling -/

mutual

/-- The reader finds the value of each of its spellings, as soon as its bound reaches the length. -/
theorem Spells.readValue {value : Json} {t : Text} :
    Spells value t → ∀ {fuel : Nat}, t.length < fuel → ∀ {rest : Text}, EndsNumber rest →
      readValue fuel (t ++ rest) = some (value, rest)
  | .gap blank spelled, fuel, bound, rest, ends => by
      rw [List.append_assoc, readValue_gap blank]
      rw [List.length_append] at bound
      exact spelled.readValue (by omega) ends
  | .null, fuel + 1, _, rest, _ => rfl
  | .true, fuel + 1, _, rest, _ => rfl
  | .false, fuel + 1, _, rest, _ => rfl
  | .natural n, fuel + 1, _, rest, ends => readValue_natural n ends
  | .string t, fuel + 1, _, rest, _ => readValue_string t
  | .emptyArray blank, fuel + 1, _, rest, _ => by
      rw [List.cons_append, List.append_assoc]
      exact readValue_emptyArray blank
  | .array items, fuel + 1, bound, rest, _ =>
      readValue_array (items.readItems (Nat.lt_of_succ_lt_succ bound) rest)
  | .emptyObject blank, fuel + 1, _, rest, _ => by
      rw [List.cons_append, List.append_assoc]
      exact readValue_emptyObject blank
  | .object members, fuel + 1, bound, rest, _ =>
      readValue_object (members.readMembers (Nat.lt_of_succ_lt_succ bound) rest)

theorem SpellsItems.readItems {items : List Json} {t : Text} :
    SpellsItems items t → ∀ {fuel : Nat}, t.length < fuel → ∀ rest : Text,
      readItems fuel (t ++ rest) = some (items, rest)
  | .last item blank, fuel + 1, bound, rest => by
      simp only [List.length_append, List.length_cons] at bound
      simp only [List.append_assoc]
      exact readItems_last (item.readValue (by omega) (endsNumber_gap_cons blank (by decide))) blank
  | .more item blank items, fuel + 1, bound, rest => by
      simp only [List.length_append, List.length_cons] at bound
      simp only [List.append_assoc, List.cons_append]
      exact readItems_more (item.readValue (by omega) (endsNumber_gap_cons blank (by decide))) blank
        (items.readItems (by omega) rest)

theorem SpellsMembers.readMembers {members : List (Text × Json)} {t : Text} :
    SpellsMembers members t → ∀ {fuel : Nat}, t.length < fuel → ∀ rest : Text,
      readMembers fuel (t ++ rest) = some (members, rest)
  | .last blankBefore blankBetween value blank, fuel + 1, bound, rest => by
      simp only [List.length_append, List.length_cons] at bound
      simp only [List.append_assoc, List.cons_append]
      exact readMembers_last blankBefore blankBetween
        (value.readValue (by omega) (endsNumber_gap_cons blank (by decide))) blank
  | .more blankBefore blankBetween value blank members, fuel + 1, bound, rest => by
      simp only [List.length_append, List.length_cons] at bound
      simp only [List.append_assoc, List.cons_append]
      exact readMembers_more blankBefore blankBetween
        (value.readValue (by omega) (endsNumber_gap_cons blank (by decide))) blank
        (members.readMembers (by omega) rest)

end

theorem Spells.ofText? {value : Json} {t : Text} (spelled : Spells value t) {behind : Text}
    (blank : Gap behind) : ofText? (t ++ behind) = some value := by
  have bound : t.length < 2 * (t ++ behind).length + 1 := by
    rw [List.length_append]
    omega
  have found := spelled.readValue bound (endsNumber_gap blank)
  have nothing : skipGap behind = [] := by
    have skipped := skipGap_append blank []
    rwa [List.append_nil] at skipped
  rw [Json.ofText?, found]
  exact if_pos nothing

/-! ## Both layouts are spellings -/

/-- The documents of this library: all their numbers are natural ones. -/
inductive Natural : Json → Prop
  | null : Natural null
  | bool (b : Bool) : Natural (bool b)
  | natural (n : Nat) : Natural (natural n)
  | string (t : Text) : Natural (string t)
  | array {items : List Json} : (∀ item ∈ items, Natural item) → Natural (array items)
  | object {members : List (Text × Json)} :
      (∀ member ∈ members, Natural member.2) → Natural (object members)

theorem gap_nil : Gap [] := by
  intro c member
  cases member

theorem gap_newline (level : Nat) : Gap (newline level) := by
  intro c member
  rcases List.mem_cons.1 member with rfl | blank
  · decide
  · rw [List.eq_of_mem_replicate blank]
    decide

section Layout
-- a layout is how an item or a value is written and what stands in front of the closing bracket
variable (write : Json → Text) {before behind : Text}

theorem spellsItems_of_layout (rest : List Json → Text) (blank : Gap behind)
    (closes : rest [] = behind ++ [']'])
    (goesOn : ∀ item items, rest (item :: items) = ',' :: (write item ++ rest items)) :
    ∀ (items : List Json) (item : Json), (∀ one ∈ item :: items, Spells one (write one)) →
      SpellsItems (item :: items) (write item ++ rest items) := by
  intro items
  induction items with
  | nil =>
      intro item spelled
      rw [closes]
      exact .last (spelled item List.mem_cons_self) blank
  | cons next items ih =>
      intro item spelled
      rw [goesOn]
      exact .more (spelled item List.mem_cons_self) gap_nil
        (ih next fun one member => spelled one (List.mem_cons_of_mem item member))

theorem spellsMembers_of_layout (rest : List (Text × Json) → Text)
    (blankBefore : Gap before) (blank : Gap behind) (closes : rest [] = behind ++ ['\x7d'])
    (goesOn : ∀ name value members, rest ((name, value) :: members) =
      ',' :: (before ++ (writeString name ++ ':' :: (write value ++ rest members)))) :
    ∀ (members : List (Text × Json)) (name : Text) (value : Json),
      (∀ one ∈ (name, value) :: members, Spells one.2 (write one.2)) →
        SpellsMembers ((name, value) :: members)
          (before ++ (writeString name ++ ':' :: (write value ++ rest members))) := by
  intro members
  induction members with
  | nil =>
      intro name value spelled
      rw [closes]
      exact .last blankBefore gap_nil (spelled (name, value) List.mem_cons_self) blank
  | cons next members ih =>
      intro name value spelled
      rw [goesOn]
      exact .more blankBefore gap_nil (spelled (name, value) List.mem_cons_self) gap_nil
        (ih next.1 next.2 fun one member => spelled one (List.mem_cons_of_mem _ member))

end Layout

theorem Natural.spells_compact {value : Json} (natural : Natural value) :
    Spells value value.compact := by
  induction natural with
  | null => exact .null
  | bool b => cases b <;> constructor
  | natural n => exact .natural n
  | string t => exact .string t
  | @array items _ ih =>
      cases items with
      | nil => exact .emptyArray gap_nil
      | cons item items =>
          exact .array (spellsItems_of_layout compact compactItems gap_nil rfl (fun _ _ => rfl)
            items item ih)
  | @object members _ ih =>
      cases members with
      | nil => exact .emptyObject gap_nil
      | cons member members =>
          obtain ⟨name, value⟩ := member
          have spelled := spellsMembers_of_layout compact compactMembers gap_nil gap_nil rfl
            (fun name value members => by simp [compactMembers]) members name value ih
          simpa [compact] using Spells.object spelled

theorem Natural.spells_pretty {value : Json} (natural : Natural value) :
    ∀ level, Spells value (value.pretty level) := by
  induction natural with
  | null => exact fun _ => .null
  | bool b => cases b <;> exact fun _ => by constructor
  | natural n => exact fun _ => .natural n
  | string t => exact fun _ => .string t
  | @array items _ ih =>
      intro level
      cases items with
      | nil => exact .emptyArray gap_nil
      | cons item items =>
          let write := fun one : Json => newline (level + 1) ++ one.pretty (level + 1)
          have written : ∀ one ∈ item :: items, Spells one (write one) :=
            fun one member => .gap (gap_newline (level + 1)) (ih one member (level + 1))
          have spelled := spellsItems_of_layout write (prettyItems level) (gap_newline level) rfl
            (fun item items => by simp [prettyItems, write]) items item written
          simpa [pretty, write] using Spells.array spelled
  | @object members _ ih =>
      intro level
      cases members with
      | nil => exact .emptyObject gap_nil
      | cons member members =>
          obtain ⟨name, value⟩ := member
          let write := fun one : Json => ' ' :: one.pretty (level + 1)
          have blank : Gap [' '] := by simp [Gap, isGap]
          have written : ∀ one ∈ (name, value) :: members, Spells one.2 (write one.2) :=
            fun one member => .gap blank (ih one member (level + 1))
          have spelled := spellsMembers_of_layout write (prettyMembers level)
            (gap_newline (level + 1)) (gap_newline level) rfl
            (fun name value members => by simp [prettyMembers, write]) members name value written
          simpa [pretty, write] using Spells.object spelled

theorem Natural.ofText?_compact {value : Json} (natural : Natural value) :
    ofText? value.compact = some value := by
  have found := natural.spells_compact.ofText? gap_nil
  rwa [List.append_nil] at found

theorem Natural.ofText?_pretty {value : Json} (natural : Natural value) (level : Nat)
    {behind : Text} (blank : Gap behind) : ofText? (value.pretty level ++ behind) = some value :=
  (natural.spells_pretty level).ofText? blank

end BuildLog.Json
