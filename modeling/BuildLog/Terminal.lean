import BuildLog.Text.Basic

/-!
# Terminal escape sequences

Build tools colour their output.  A control sequence starts with `ESC [` or the single character
`U+009B`, goes on with parameters and intermediates and ends with one final character; the other
sequences are `ESC` and one character.  An introducer that starts neither is removed on its own, so
nothing that is left can be taken for a sequence.
-/

set_option autoImplicit false

namespace BuildLog.Terminal

def escape : Char := '\x1b'

def controlIntroducer : Char := '\u009b'

def isIntroducer (c : Char) : Bool :=
  c = escape || c = controlIntroducer

def hasEscape (t : Text) : Bool :=
  t.any isIntroducer

def isParameter (c : Char) : Bool :=
  decide (0x30 ≤ c.toNat ∧ c.toNat ≤ 0x3F)

def isIntermediate (c : Char) : Bool :=
  decide (0x20 ≤ c.toNat ∧ c.toNat ≤ 0x2F)

def isFinal (c : Char) : Bool :=
  decide (0x40 ≤ c.toNat ∧ c.toNat ≤ 0x7E)

/-- The characters `@` to `_` without `[`, which end a sequence of two characters. -/
def isShortFinal (c : Char) : Bool :=
  decide (0x40 ≤ c.toNat ∧ c.toNat ≤ 0x5F) && c ≠ '['

/-- What follows the parameters, intermediates and final character of a control sequence. -/
def afterControl? (t : Text) : Option Text :=
  match (t.dropWhile isParameter).dropWhile isIntermediate with
  | c :: rest => if isFinal c then some rest else none
  | [] => none

def afterSequence? (introducer : Char) (t : Text) : Option Text :=
  if introducer = controlIntroducer then afterControl? t
  else
    match t with
    | '[' :: rest => afterControl? rest
    | c :: rest => if isShortFinal c then some rest else none
    | [] => none

theorem length_afterControl? {t rest : Text} (found : afterControl? t = some rest) :
    rest.length < t.length := by
  have inner := (List.dropWhile_sublist isIntermediate (l := t.dropWhile isParameter)).length_le
  have outer := (List.dropWhile_sublist isParameter (l := t)).length_le
  unfold afterControl? at found
  split at found
  · next c tail split =>
      split at found
      · cases found
        rw [split] at inner
        simp only [List.length_cons] at inner
        omega
      · cases found
  · cases found

theorem length_afterSequence? {introducer : Char} {t rest : Text}
    (found : afterSequence? introducer t = some rest) : rest.length < t.length := by
  unfold afterSequence? at found
  split at found
  · exact length_afterControl? found
  · split at found
    · exact Nat.lt_succ_of_lt (length_afterControl? found)
    · split at found
      · cases found
        simp
      · cases found
    · cases found

/-- A text without its escape sequences. -/
def strip : Text → Text
  | [] => []
  | c :: t =>
    if isIntroducer c then
      match _found : afterSequence? c t with
      | some rest => strip rest
      | none => strip t
    else c :: strip t
termination_by t => t.length
decreasing_by
  all_goals simp only [List.length_cons]
  · exact Nat.lt_succ_of_lt (length_afterSequence? (by assumption))
  all_goals omega

@[simp] theorem strip_nil : strip [] = [] := by
  rw [strip]

theorem strip_cons_plain {c : Char} (plain : isIntroducer c = false) (t : Text) :
    strip (c :: t) = c :: strip t := by
  rw [strip]
  simp [plain]

theorem strip_cons_introducer {c : Char} (introducer : isIntroducer c = true) (t : Text) :
    strip (c :: t) = strip ((afterSequence? c t).getD t) := by
  rw [strip]
  simp only [introducer, ↓reduceIte]
  split
  · next rest found => rw [found, Option.getD_some]
  · next missing => rw [missing, Option.getD_none]

theorem strip_eq_self {t : Text} (plain : hasEscape t = false) : strip t = t := by
  induction t with
  | nil => exact strip_nil
  | cons c t ih =>
      simp only [hasEscape, List.any_cons, Bool.or_eq_false_iff] at plain
      rw [strip_cons_plain plain.1, ih plain.2]

theorem hasEscape_strip (t : Text) : hasEscape (strip t) = false := by
  fun_induction strip t with
  | case1 => rfl
  | case2 c t introducer rest found ih => exact ih
  | case3 c t introducer missing ih => exact ih
  | case4 c t plain ih => simpa [hasEscape, plain] using ih

theorem strip_strip (t : Text) : strip (strip t) = strip t :=
  strip_eq_self (hasEscape_strip t)

end BuildLog.Terminal
