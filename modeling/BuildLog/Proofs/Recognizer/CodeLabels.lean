import BuildLog.Proofs.Text.Marks
import BuildLog.Proofs.Text.Trimming
import BuildLog.Recognizer.Parts

/-!
# Codes in front of a message

A label is a code and a colon, with the word `error` in front of the code or without.  At most one
label starts a text, since no code has a blank in it and the word counts only with one.  Stripping
takes this label away and no more, so a message is read back even when it looks like a label itself.
-/

set_option autoImplicit false

namespace BuildLog

open Text

namespace CodeLabel

/-! ## Codes -/

/-- The code of a diagnostic: two or more capital letters and a number in any script. -/
structure Code where
  letters : Text
  digits : Text
  capital : letters.all isCapital = true
  long : 2 ≤ letters.length
  decimal : digits.all isDecimalDigit = true
  numbered : digits ≠ []

theorem exists_of_isDecimalDigit {c : Char} (digit : isDecimalDigit c = true) :
    ∃ first ∈ zeroDigits, first ≤ c.toNat ∧ c.toNat < first + 10 := by
  obtain ⟨first, member, inside⟩ := List.any_eq_true.1 digit
  exact ⟨first, member, decide_eq_true_iff.1 inside⟩

theorem toNat_of_isCapital {c : Char} (capital : isCapital c = true) :
    65 ≤ c.toNat ∧ c.toNat ≤ 90 := by
  have bounds : 'A'.val ≤ c.val ∧ c.val ≤ 'Z'.val := of_decide_eq_true capital
  exact ⟨UInt32.le_iff_toNat_le.1 bounds.1, UInt32.le_iff_toNat_le.1 bounds.2⟩

theorem not_isCapital_of_isDecimalDigit {c : Char} (digit : isDecimalDigit c = true) :
    isCapital c = false := by
  cases capital : isCapital c with
  | false => rfl
  | true =>
      obtain ⟨first, member, inside⟩ := exists_of_isDecimalDigit digit
      have apart : ∀ first ∈ zeroDigits, first + 10 ≤ 65 ∨ 90 < first := by decide
      have letter := toNat_of_isCapital capital
      have far := apart first member
      omega

theorem not_isBlank_of_isDecimalDigit {c : Char} (digit : isDecimalDigit c = true) :
    isBlank c = false := by
  cases blank : isBlank c with
  | false => rfl
  | true =>
      obtain ⟨first, member, inside⟩ := exists_of_isDecimalDigit digit
      obtain ⟨range, listed, within⟩ := List.any_eq_true.1 blank
      have apart : ∀ first ∈ zeroDigits, ∀ range ∈ blankRanges,
          first + 10 ≤ range.1 ∨ range.2 < first := by decide
      have near := decide_eq_true_iff.1 within
      have far := apart first member range listed
      omega

theorem not_isBlank_of_isCapital {c : Char} (capital : isCapital c = true) :
    isBlank c = false := by
  cases blank : isBlank c with
  | false => rfl
  | true =>
      obtain ⟨range, listed, within⟩ := List.any_eq_true.1 blank
      have apart : ∀ range ∈ blankRanges, range.2 < 65 ∨ 90 < range.1 := by decide
      have letter := toNat_of_isCapital capital
      have near := decide_eq_true_iff.1 within
      have far := apart range listed
      omega

namespace Code
variable (code : Code)

def render : Text :=
  code.letters ++ code.digits

def label (message : Text) : Text :=
  code.render ++ ": ".toList ++ message

variable {code} in
theorem kind_of_mem_render {c : Char} (member : c ∈ code.render) :
    isCapital c = true ∨ isDecimalDigit c = true :=
  (List.mem_append.1 member).imp (List.all_eq_true.1 code.capital c)
    (List.all_eq_true.1 code.decimal c)

variable {code} in
theorem not_isBlank_of_mem_render {c : Char} (member : c ∈ code.render) : isBlank c = false :=
  (kind_of_mem_render member).elim not_isBlank_of_isCapital not_isBlank_of_isDecimalDigit

theorem filled_render : Filled code.render :=
  .of_forall (by simp [render, code.numbered]) fun _ => not_isBlank_of_mem_render

theorem filled_label {message : Text} (filled : Filled message) : Filled (code.label message) :=
  code.filled_render.append filled ": ".toList

theorem afterCode?_render (rest : Text) : afterCode? (code.render ++ ':' :: rest) = some rest := by
  have capital := List.all_eq_true.1 code.capital
  have decimal := List.all_eq_true.1 code.decimal
  obtain ⟨d, digits, split⟩ := List.exists_cons_of_ne_nil code.numbered
  have digit : isCapital d = false :=
    not_isCapital_of_isDecimalDigit (decimal d (split ▸ List.mem_cons_self))
  have colon : isDecimalDigit ':' = false := by decide
  have letters : (code.render ++ ':' :: rest).takeWhile isCapital = code.letters := by
    rw [render, List.append_assoc, List.takeWhile_append_of_pos capital, split]
    simp [digit]
  have behindLetters : (code.render ++ ':' :: rest).dropWhile isCapital =
      code.digits ++ ':' :: rest := by
    rw [render, List.append_assoc, List.dropWhile_append_of_pos capital, split]
    simp [digit]
  have digits : (code.digits ++ ':' :: rest).takeWhile isDecimalDigit = code.digits := by
    rw [List.takeWhile_append_of_pos decimal]
    simp [colon]
  have behindDigits : (code.digits ++ ':' :: rest).dropWhile isDecimalDigit = ':' :: rest := by
    rw [List.dropWhile_append_of_pos decimal]
    simp [colon]
  simp only [afterCode?, letters, behindLetters, digits, behindDigits]
  exact if_pos ⟨code.long, code.numbered⟩

end Code

theorem afterCode?_eq_some_iff {t rest : Text} :
    afterCode? t = some rest ↔ ∃ code : Code, t = code.render ++ ':' :: rest := by
  constructor
  · intro found
    unfold afterCode? at found
    dsimp only at found
    split at found
    · next tail behind =>
        split at found
        · next shape =>
            cases found
            refine ⟨⟨t.takeWhile isCapital, (t.dropWhile isCapital).takeWhile isDecimalDigit,
              List.all_takeWhile, shape.1, List.all_takeWhile, shape.2⟩, ?_⟩
            rw [Code.render, ← behind, List.append_assoc, List.takeWhile_append_dropWhile,
              List.takeWhile_append_dropWhile]
        · cases found
    · cases found
  · rintro ⟨code, rfl⟩
    exact code.afterCode?_render rest

/-! ## The word in front of a code -/

/-- The word `error` in any ASCII case, with at least one blank behind it. -/
def IsErrorWord (lead : Text) : Prop :=
  ∃ word blanks, lead = word ++ blanks ∧ lowered word = "error".toList ∧ blanks ≠ [] ∧
    isBlankLine blanks = true

theorem not_isBlank_of_lowered {word : Text} (lower : lowered word = "error".toList) {c : Char}
    (member : c ∈ word) : isBlank c = false := by
  have letters : ("error".toList.all fun d => !isBlank d) = true := by decide
  cases blank : isBlank c with
  | false => rfl
  | true =>
      have inside : c ∈ "error".toList := by
        rw [← lower, ← toLower_of_isBlank blank]
        exact List.mem_map_of_mem member
      simpa [blank] using List.all_eq_true.1 letters c inside

theorem afterErrorWord?_eq_some_iff {t rest : Text} :
    afterErrorWord? t = some rest ↔
      ∃ lead, IsErrorWord lead ∧ t = lead ++ rest ∧ trimStart rest = rest := by
  unfold afterErrorWord?
  constructor
  · intro found
    split at found
    · next c tail behind =>
        split at found
        · next blank =>
            cases found
            obtain ⟨word, rfl, lower⟩ := afterLowered?_eq_some_iff.1 behind
            have blanks : isBlankLine (c :: tail.takeWhile isBlank) = true :=
              Bool.and_eq_true_iff.2 ⟨blank, List.all_takeWhile⟩
            refine ⟨word ++ c :: tail.takeWhile isBlank,
              ⟨word, _, rfl, lower, List.cons_ne_nil _ _, blanks⟩, ?_,
              List.dropWhile_idempotent isBlank tail⟩
            rw [List.append_assoc, List.cons_append, trimStart, List.takeWhile_append_dropWhile]
        · cases found
    · cases found
  · rintro ⟨lead, ⟨word, blanks, rfl, lower, nonempty, blank⟩, rfl, solid⟩
    obtain ⟨c, more, rfl⟩ := List.exists_cons_of_ne_nil nonempty
    have found : afterLowered? "error".toList (word ++ c :: more ++ rest) =
        some (c :: (more ++ rest)) := afterLowered?_eq_some_iff.2 ⟨word, by simp, lower⟩
    have first : isBlank c = true := isBlankLine_iff.1 blank c List.mem_cons_self
    have others : ∀ d ∈ more, isBlank d = true := fun d member =>
      isBlankLine_iff.1 blank d (List.mem_cons_of_mem c member)
    rw [found]
    simp only [if_pos first]
    rw [trimStart, List.dropWhile_append_of_pos others]
    exact congrArg some solid

/-- No blank stands in a code, so no code starts with the word and its blank. -/
theorem afterErrorWord?_append_colon {solid : Text} (unbroken : ∀ c ∈ solid, isBlank c = false)
    (rest : Text) : afterErrorWord? (solid ++ ':' :: rest) = none := by
  rw [Option.eq_none_iff_forall_ne_some]
  intro behind found
  obtain ⟨lead, ⟨word, blanks, rfl, lower, nonempty, blank⟩, split, -⟩ :=
    afterErrorWord?_eq_some_iff.1 found
  obtain ⟨c, more, rfl⟩ := List.exists_cons_of_ne_nil nonempty
  have first : isBlank c = true := isBlankLine_iff.1 blank c List.mem_cons_self
  have starts : word ++ [c] <+: solid ++ ':' :: rest := ⟨more ++ behind, by simp [split]⟩
  have noColon : ':' ∉ word ++ [c] := by
    intro member
    rcases List.mem_append.1 member with letter | last
    · have lowerColon : ':' ∈ lowered word := List.mem_map.2 ⟨':', letter, rfl⟩
      rw [lower] at lowerColon
      exact absurd lowerColon (by decide)
    · rw [← List.mem_singleton.1 last] at first
      exact absurd first (by decide)
  have inside : c ∈ solid := (prefix_of_prefix_append_cons noColon starts).subset (by simp)
  rw [unbroken c inside] at first
  cases first

/-! ## Labels -/

/-- A code and a colon, with the word `error` in front of the code or with nothing. -/
structure Label where
  lead : Text
  code : Code
  known : lead = [] ∨ IsErrorWord lead

namespace Label
variable (label : Label)

def render : Text :=
  label.lead ++ (label.code.render ++ [':'])

theorem filled_render : Filled label.render := by
  have code : Filled (label.code.render ++ [':']) := by
    have colon : Filled [':'] := ⟨by decide, by decide⟩
    simpa using label.code.filled_render.append colon []
  rcases label.known with nothing | ⟨word, blanks, lead, lower, -, -⟩
  · rwa [render, nothing]
  · have nonempty : word ≠ [] := by
      rintro rfl
      cases lower
    have spoken : Filled word := .of_forall nonempty fun _ => not_isBlank_of_lowered lower
    rw [render, lead]
    exact spoken.append code blanks

end Label

theorem afterLabel?_eq_some_iff {t rest : Text} :
    afterLabel? t = some rest ↔ ∃ label : Label, t = label.render ++ rest := by
  unfold afterLabel?
  constructor
  · intro found
    split at found
    · next behind labelled =>
        cases found
        obtain ⟨middle, word, coded⟩ := Option.bind_eq_some_iff.1 labelled
        obtain ⟨lead, known, rfl, -⟩ := afterErrorWord?_eq_some_iff.1 word
        obtain ⟨code, rfl⟩ := afterCode?_eq_some_iff.1 coded
        exact ⟨⟨lead, code, .inr known⟩, by simp [Label.render]⟩
    · obtain ⟨code, rfl⟩ := afterCode?_eq_some_iff.1 found
      exact ⟨⟨[], code, .inl rfl⟩, by simp [Label.render]⟩
  · rintro ⟨⟨lead, code, nothing | known⟩, rfl⟩
    · subst nothing
      have unbroken : ∀ c ∈ code.render, isBlank c = false :=
        fun _ => Code.not_isBlank_of_mem_render
      have whole : Label.render ⟨[], code, .inl rfl⟩ ++ rest = code.render ++ ':' :: rest := by
        simp [Label.render]
      rw [whole, afterErrorWord?_append_colon unbroken, code.afterCode?_render]
      rfl
    · have solid : trimStart (code.render ++ ':' :: rest) = code.render ++ ':' :: rest := by
        obtain ⟨c, more, split, first⟩ := code.filled_render.exists_first
        rw [split]
        exact List.dropWhile_cons_of_neg (by simp [first])
      have word : afterErrorWord? (Label.render ⟨lead, code, .inr known⟩ ++ rest) =
          some (code.render ++ ':' :: rest) :=
        afterErrorWord?_eq_some_iff.2 ⟨lead, known, by simp [Label.render], solid⟩
      rw [word, Option.bind_some, code.afterCode?_render]

theorem Label.unique {label other : Label} {rest behind : Text}
    (same : label.render ++ rest = other.render ++ behind) :
    label.render = other.render ∧ rest = behind := by
  have found : afterLabel? (label.render ++ rest) = some rest :=
    afterLabel?_eq_some_iff.2 ⟨label, rfl⟩
  rw [same, afterLabel?_eq_some_iff.2 ⟨other, rfl⟩] at found
  obtain rfl := Option.some.inj found
  exact ⟨List.append_cancel_right same, rfl⟩

theorem suffix_of_afterLabel? {t rest : Text} (found : afterLabel? t = some rest) : rest <:+ t := by
  obtain ⟨label, rfl⟩ := afterLabel?_eq_some_iff.1 found
  exact List.suffix_append label.render rest

/-! ## Stripping -/

theorem strip_cons_of_isBlank {c : Char} (blank : isBlank c = true) (t : Text) :
    strip (c :: t) = strip t := by
  rw [strip, strip, trim_cons_of_isBlank blank]

theorem strip_of_label {message rest : Text} {label : Label}
    (labelled : trim message = label.render ++ rest) : strip message = trimStart rest := by
  rw [strip, afterLabel?_eq_some_iff.2 ⟨label, labelled⟩]

theorem strip_of_no_label {message : Text}
    (unlabelled : ∀ label : Label, ¬ label.render <+: trim message) :
    strip message = trim message := by
  have missing : afterLabel? (trim message) = none := by
    rw [Option.eq_none_iff_forall_ne_some]
    intro rest found
    obtain ⟨label, split⟩ := afterLabel?_eq_some_iff.1 found
    exact unlabelled label ⟨rest, split.symm⟩
  rw [strip, missing]

theorem strip_isInfix (message : Text) : strip message <:+: message := by
  unfold strip
  split
  · next rest label =>
      have behind := (trimStart_suffix rest).trans (suffix_of_afterLabel? label)
      exact behind.isInfix.trans (trim_isInfix message)
  · exact trim_isInfix message

theorem strip_append (label : Label) {blanks message : Text} (blank : isBlankLine blanks = true)
    (trimmed : trim message = message) : strip (label.render ++ (blanks ++ message)) = message := by
  by_cases empty : message = []
  · subst empty
    have bare : trim (label.render ++ (blanks ++ [])) = label.render ++ [] := by
      have kept := label.filled_render.trim_between (rfl : isBlankLine [] = true) blank
      simpa using kept
    exact strip_of_label bare
  · have filled : Filled message := ⟨empty, trimmed⟩
    have whole : trim (label.render ++ (blanks ++ message)) =
        label.render ++ (blanks ++ message) := by
      rw [← List.append_assoc]
      exact (label.filled_render.append filled blanks).trimmed
    rw [strip_of_label whole, trimStart, List.dropWhile_append_of_pos (isBlankLine_iff.1 blank)]
    exact filled.trimStart_eq

section Printed
variable (code : Code) {message : Text} (filled : Filled message)
include filled

theorem strip_label : strip (code.label message) = message := by
  have stripped := strip_append ⟨[], code, .inl rfl⟩ (rfl : isBlankLine [' '] = true) filled.trimmed
  simpa [Label.render, Code.label] using stripped

theorem strip_error_label : strip ("error ".toList ++ code.label message) = message := by
  have word : IsErrorWord "error ".toList :=
    ⟨"error".toList, [' '], rfl, by decide, by decide, by decide⟩
  have stripped := strip_append ⟨_, code, .inr word⟩ (rfl : isBlankLine [' '] = true) filled.trimmed
  simpa [Label.render, Code.label] using stripped

end Printed

/-- Stripping takes away the one label in front of a message together with the blanks behind it, or
nothing when there is no label, and the message may start with any label of its own. -/
theorem strip_takes_one_label :
    (∀ message : Text, ∃ removed, trim message = removed ++ strip message ∧
      ((∀ label : Label, ¬ label.render <+: trim message) → removed = []) ∧
      (∀ label : Label, label.render <+: trim message →
        ∃ blanks, isBlankLine blanks = true ∧ removed = label.render ++ blanks) ∧
      ∀ c rest, strip message = c :: rest → isBlank c = false) ∧
    ∀ (label : Label) (blanks message : Text), isBlankLine blanks = true → trim message = message →
      strip (label.render ++ (blanks ++ message)) = message := by
  constructor
  · intro message
    by_cases labelled : ∃ label : Label, label.render <+: trim message
    · obtain ⟨label, rest, split⟩ := labelled
      have stripped : strip message = trimStart rest := strip_of_label split.symm
      refine ⟨label.render ++ rest.takeWhile isBlank, ?_, ?_, ?_, ?_⟩
      · rw [stripped, List.append_assoc, trimStart, List.takeWhile_append_dropWhile, split]
      · intro unlabelled
        exact absurd ⟨rest, split⟩ (unlabelled label)
      · rintro other ⟨behind, otherSplit⟩
        obtain ⟨same, -⟩ := Label.unique (split.trans otherSplit.symm)
        exact ⟨rest.takeWhile isBlank, List.all_takeWhile, by rw [same]⟩
      · intro c more shown
        have stopped := List.head?_dropWhile_not isBlank rest
        rwa [show rest.dropWhile isBlank = c :: more from stripped.symm.trans shown,
          List.head?_cons] at stopped
    · have unlabelled : ∀ label : Label, ¬ label.render <+: trim message :=
        fun label starts => labelled ⟨label, starts⟩
      have stripped : strip message = trim message := strip_of_no_label unlabelled
      refine ⟨[], stripped.symm, fun _ => rfl, ?_, ?_⟩
      · intro label starts
        exact absurd starts (unlabelled label)
      · intro c more shown
        exact not_isBlank_of_trim_eq_cons (stripped.symm.trans shown)
  · intro label blanks message blank trimmed
    exact strip_append label blank trimmed

/-- The word in front of the code is spelled in capitals, and the message looks like a label. -/
theorem strip_takes_one_label_of_two :
    let code : Code := ⟨"TS".toList, "1\u0662".toList, by decide, by decide, by decide, by decide⟩
    let label : Label := ⟨"ERROR\u00a0".toList, code, .inr ⟨"ERROR".toList, ['\u00a0'], by decide⟩⟩
    let message := "ERROR1: wrapped".toList
    let printed := label.render ++ ([' ', '\t'] ++ message)
    label.render <+: trim printed ∧ isBlankLine [' ', '\t'] = true ∧ trim message = message ∧
      strip printed = message ∧ strip message = "wrapped".toList ∧
      ∃ blanks, isBlankLine blanks = true ∧ trim printed = label.render ++ blanks ++ message := by
  intro code label message printed
  have blank : isBlankLine [' ', '\t'] = true := by decide
  have trimmed : trim message = message := by decide +kernel
  have labelled : label.render <+: trim printed := by decide +kernel
  have stripped : strip printed = message :=
    strip_takes_one_label.2 label _ message blank trimmed
  obtain ⟨removed, split, -, taken, -⟩ := strip_takes_one_label.1 printed
  obtain ⟨blanks, spaced, rfl⟩ := taken label labelled
  rw [stripped] at split
  exact ⟨labelled, blank, trimmed, stripped, by decide +kernel, blanks, spaced, split⟩

end CodeLabel

end BuildLog
