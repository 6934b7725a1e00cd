import BuildLog.Numeral
import BuildLog.Proofs.Text.Pieces

/-!
# Byte offsets

In memory a text is a row of bytes, one to four for each character, and a place in it is the number
of bytes in front of it.  A text cannot be cut at every offset: one inside a character and one
behind the end are faults, and so are an index that a list does not have and a sum or a difference
that is no machine word.  Offsets that are found in a text, or in its copy in lower case, are
offsets at which the text can be cut.
-/

set_option autoImplicit false

namespace BuildLog.Bytewise

open Text

inductive Fault where
  /-- A text was to be cut inside a character or behind its end. -/
  | offset
  /-- A list was asked for elements that it does not have. -/
  | index
  /-- A sum or a difference is no machine word. -/
  | arithmetic
  deriving DecidableEq

abbrev Checked := Except Fault

@[simp] theorem ok_bind {α β : Type} (a : α) (next : α → Checked β) :
    (Except.ok a >>= next : Checked β) = next a := rfl

/-! ## Machine words -/

def add (a b : Nat) : Checked Nat :=
  if a + b < Numeral.limit then .ok (a + b) else .error .arithmetic

def sub (a b : Nat) : Checked Nat :=
  if b ≤ a then .ok (a - b) else .error .arithmetic

theorem add_eq_ok {a b : Nat} (small : a + b < Numeral.limit) : add a b = .ok (a + b) :=
  if_pos small

theorem sub_eq_ok {a b : Nat} (le : b ≤ a) : sub a b = .ok (a - b) :=
  if_pos le

/-! ## Lists -/

section Lists
variable {α : Type}

def element (items : List α) (i : Nat) : Checked α :=
  match items[i]? with
  | some item => .ok item
  | none => .error .index

def elements (items : List α) (start stop : Nat) : Checked (List α) :=
  if start ≤ stop ∧ stop ≤ items.length then .ok ((items.take stop).drop start)
  else .error .index

theorem element_eq_ok {items : List α} {i : Nat} {item : α} (here : items[i]? = some item) :
    element items i = .ok item := by
  simp only [element, here]

theorem elements_eq_ok {items : List α} {start stop : Nat} (ordered : start ≤ stop)
    (inside : stop ≤ items.length) :
    elements items start stop = .ok ((items.take stop).drop start) :=
  if_pos ⟨ordered, inside⟩

end Lists

/-! ## Texts -/

def size : Text → Nat
  | [] => 0
  | c :: t => c.utf8Size + size t

def sidesAt? : Nat → Text → Option (Text × Text)
  | 0, t => some ([], t)
  | _ + 1, [] => none
  | n + 1, c :: t =>
    if c.utf8Size ≤ n + 1 then
      (sidesAt? (n + 1 - c.utf8Size) t).map fun sides => (c :: sides.1, sides.2)
    else none

def sliceTo (t : Text) (stop : Nat) : Checked Text :=
  match sidesAt? stop t with
  | some sides => .ok sides.1
  | none => .error .offset

def sliceFrom (t : Text) (start : Nat) : Checked Text :=
  match sidesAt? start t with
  | some sides => .ok sides.2
  | none => .error .offset

/-- A slice that would end before it starts is a fault, for its start is behind the end of what
stands before its stop. -/
def slice (t : Text) (start stop : Nat) : Checked Text := do
  let front ← sliceTo t stop
  sliceFrom front start

def find? (mark : Text) : Text → Option Nat
  | [] => if mark = [] then some 0 else none
  | c :: t =>
    if startsWith mark (c :: t) then some 0 else (find? mark t).map (c.utf8Size + ·)

def findLast? (mark : Char) : Text → Option Nat
  | [] => none
  | c :: t =>
    match findLast? mark t with
    | some offset => some (c.utf8Size + offset)
    | none => if c = mark then some 0 else none

def findOther? (kind : Char → Bool) : Text → Option Nat
  | [] => none
  | c :: t => if kind c then (findOther? kind t).map (c.utf8Size + ·) else some 0

/-! ## Sizes -/

@[simp] theorem size_nil : size [] = 0 := rfl

@[simp] theorem size_cons (c : Char) (t : Text) : size (c :: t) = c.utf8Size + size t := rfl

@[simp] theorem size_append (first second : Text) :
    size (first ++ second) = size first + size second := by
  induction first with
  | nil => simp
  | cons c first ih =>
      rw [List.cons_append, size_cons, size_cons, ih]
      omega

theorem size_le_of_sublist {part whole : Text} (sublist : part.Sublist whole) :
    size part ≤ size whole := by
  induction sublist with
  | slnil => exact Nat.le_refl _
  | cons c rest ih =>
      rw [size_cons]
      omega
  | cons_cons c rest ih =>
      rw [size_cons, size_cons]
      omega

theorem size_lt_of_isInfix {part whole : Text} (inside : part <:+: whole) {bound : Nat}
    (small : size whole < bound) : size part < bound :=
  Nat.lt_of_le_of_lt (size_le_of_sublist inside.sublist) small

theorem utf8Size_of_ascii {c : Char} (ascii : c.toNat < 0x80) : c.utf8Size = 1 :=
  Char.utf8Size_eq_one_iff.2 (UInt32.le_iff_toNat_le.2 (Nat.le_of_lt_succ ascii))

theorem utf8Size_toLower (c : Char) : c.toLower.utf8Size = c.utf8Size := by
  rcases toLower_cases c with same | ⟨-, high, value⟩
  · rw [same]
  · have ascii : c.toNat < 0x80 := by omega
    have asciiLowered : c.toLower.toNat < 0x80 := by omega
    rw [utf8Size_of_ascii ascii, utf8Size_of_ascii asciiLowered]

theorem size_lowered (t : Text) : size (lowered t) = size t := by
  induction t with
  | nil => rfl
  | cons c t ih =>
      have head := utf8Size_toLower c
      change size (c.toLower :: lowered t) = size (c :: t)
      rw [size_cons, size_cons, head, ih]

/-! ## Cutting at an offset -/

theorem sidesAt?_size (before rest : Text) :
    sidesAt? (size before) (before ++ rest) = some (before, rest) := by
  induction before with
  | nil => rw [size_nil, List.nil_append, sidesAt?.eq_def]
  | cons c before ih =>
      have positive := c.utf8Size_pos
      obtain ⟨n, count⟩ : ∃ n, c.utf8Size + size before = n + 1 :=
        ⟨c.utf8Size + size before - 1, by omega⟩
      have left : n + 1 - c.utf8Size = size before := by omega
      rw [size_cons, count, List.cons_append, sidesAt?, if_pos (by omega), left, ih]
      rfl

theorem sidesAt?_eq_some_iff {offset : Nat} {t before rest : Text} :
    sidesAt? offset t = some (before, rest) ↔ t = before ++ rest ∧ size before = offset := by
  constructor
  · intro found
    fun_induction sidesAt? offset t generalizing before with
    | case1 t =>
        cases found
        exact ⟨rfl, rfl⟩
    | case2 n => cases found
    | case3 n c t inside ih =>
        obtain ⟨⟨front, back⟩, behind, same⟩ := Option.map_eq_some_iff.1 found
        cases same
        obtain ⟨split, count⟩ := ih behind
        exact ⟨by rw [split, List.cons_append], by rw [size_cons, count]; omega⟩
    | case4 n c t outside => cases found
  · rintro ⟨rfl, rfl⟩
    exact sidesAt?_size before rest

theorem sliceTo_eq_ok_iff {t before : Text} {stop : Nat} :
    sliceTo t stop = .ok before ↔ ∃ rest, t = before ++ rest ∧ size before = stop := by
  simp only [← sidesAt?_eq_some_iff, sliceTo]
  cases sidesAt? stop t with
  | none => simp
  | some sides => simp [Prod.ext_iff]

example : sliceTo "éa".toList 1 = .error .offset ∧ sliceTo "éa".toList 3 = .ok "éa".toList := by
  decide

theorem sliceFrom_eq_ok_iff {t rest : Text} {start : Nat} :
    sliceFrom t start = .ok rest ↔ ∃ before, t = before ++ rest ∧ size before = start := by
  simp only [← sidesAt?_eq_some_iff, sliceFrom]
  cases sidesAt? start t with
  | none => simp
  | some sides => simp [Prod.ext_iff]

theorem sliceTo_size (before rest : Text) : sliceTo (before ++ rest) (size before) = .ok before :=
  sliceTo_eq_ok_iff.2 ⟨rest, rfl, rfl⟩

theorem sliceFrom_size (before rest : Text) : sliceFrom (before ++ rest) (size before) = .ok rest :=
  sliceFrom_eq_ok_iff.2 ⟨before, rfl, rfl⟩

/-! ## Offsets that are found -/

theorem find?_eq (mark t : Text) : find? mark t = (cut? mark t).map fun sides => size sides.1 := by
  induction t with
  | nil =>
      by_cases empty : mark = []
      · subst empty
        rfl
      · cases mark with
        | nil => exact absurd rfl empty
        | cons c mark => rfl
  | cons c t ih =>
      unfold find? cut? startsWith
      cases here : after? mark (c :: t) with
      | some rest => rfl
      | none =>
          rw [ih]
          simp [Option.map_map, Function.comp_def]

theorem findLast?_eq (mark : Char) (t : Text) :
    findLast? mark t = (cutLast? mark t).map fun sides => size sides.1 := by
  induction t with
  | nil => rfl
  | cons c t ih =>
      unfold findLast? cutLast?
      rw [ih]
      cases later : cutLast? mark t with
      | some sides => rfl
      | none =>
          by_cases here : c = mark
          · simp [here]
          · simp [here]

theorem findOther?_getD (kind : Char → Bool) (t : Text) :
    (findOther? kind t).getD (size t) = size (t.takeWhile kind) := by
  induction t with
  | nil => rfl
  | cons c t ih =>
      unfold findOther?
      by_cases inside : kind c = true
      · rw [if_pos inside, List.takeWhile_cons_of_pos inside, size_cons, size_cons, ← ih]
        cases findOther? kind t with
        | none => rfl
        | some offset => rfl
      · rw [if_neg inside, List.takeWhile_cons_of_neg inside]
        rfl

theorem append_of_cut?_lowered {mark t front back : Text}
    (found : cut? mark (lowered t) = some (front, back)) :
    ∃ before middle rest, t = before ++ (middle ++ rest) ∧ size before = size front ∧
      size middle = size mark ∧ cutLowered? mark t = some (before, rest) := by
  have split := eq_of_cut? found
  rw [List.append_assoc] at split
  obtain ⟨before, behind, rfl, lowerBefore, lowerBehind⟩ := List.map_eq_append_iff.1 split
  obtain ⟨middle, rest, rfl, lowerMiddle, lowerRest⟩ := List.map_eq_append_iff.1 lowerBehind
  have sizeBefore : size before = size front := by rw [← size_lowered before, lowered, lowerBefore]
  have sizeMiddle : size middle = size mark := by rw [← size_lowered middle, lowered, lowerMiddle]
  have lengthBefore : front.length = before.length := by rw [← lowerBefore, List.length_map]
  have lengthMiddle : mark.length = middle.length := by rw [← lowerMiddle, List.length_map]
  refine ⟨before, middle, rest, rfl, sizeBefore, sizeMiddle, ?_⟩
  rw [cutLowered?, found, Option.map_some, lengthBefore, lengthMiddle]
  simp

theorem sliceTo_of_cut? {mark t before rest : Text} (found : cut? mark t = some (before, rest)) :
    find? mark t = some (size before) ∧ sliceTo t (size before) = .ok before := by
  constructor
  · rw [find?_eq, found]
    rfl
  · rw [eq_of_cut? found, List.append_assoc]
    exact sliceTo_size before (mark ++ rest)

theorem find?_lowered_eq_none {mark t : Text} (missing : cutLowered? mark t = none) :
    find? mark (lowered t) = none := by
  rw [find?_eq, Option.map_eq_none_iff.1 missing]
  rfl

theorem sliceFrom_of_cutLowered? {mark t before rest : Text} (small : size t < Numeral.limit)
    (found : cutLowered? mark t = some (before, rest)) :
    ∃ offset start, find? mark (lowered t) = some offset ∧
      add offset (size mark) = .ok start ∧ sliceFrom t start = .ok rest := by
  obtain ⟨⟨front, back⟩, cut, -⟩ := Option.map_eq_some_iff.1 found
  obtain ⟨left, middle, right, split, sizeLeft, sizeMiddle, same⟩ := append_of_cut?_lowered cut
  rw [found] at same
  cases same
  refine ⟨size front, size front + size mark, ?_, ?_, ?_⟩
  · rw [find?_eq, cut]
    rfl
  · apply add_eq_ok
    rw [split, size_append, size_append] at small
    omega
  · apply sliceFrom_eq_ok_iff.2
    exact ⟨before ++ middle, by rw [split, List.append_assoc], by rw [size_append]; omega⟩

end BuildLog.Bytewise
