import BuildLog.Terminal

/-!
# Complete sequences and what colouring adds

A tool that colours its output writes complete escape sequences between the characters of a text.
A complete sequence is removed as a whole: it ends with its own final character, whatever stands
behind it.  So a text in which no sequence starts by itself is what is left of each of its
colourings.
-/

set_option autoImplicit false

namespace BuildLog.Terminal

/-- An escape sequence from its introducer to its final character. -/
inductive IsSequence : Text → Prop
  | control {opening parameters intermediates : Text} {last : Char}
      (opens : opening = [escape, '['] ∨ opening = [controlIntroducer])
      (allParameters : ∀ c ∈ parameters, isParameter c = true)
      (allIntermediates : ∀ c ∈ intermediates, isIntermediate c = true)
      (ends : isFinal last = true) :
      IsSequence (opening ++ (parameters ++ (intermediates ++ [last])))
  | short {last : Char} (ends : isShortFinal last = true) : IsSequence [escape, last]

/-- The second text is the first one with complete sequences written between its characters. -/
inductive Coloured : Text → Text → Prop
  | nil : Coloured [] []
  | keep (c : Char) {t shown : Text} (rest : Coloured t shown) : Coloured (c :: t) (c :: shown)
  | insert {code t shown : Text} (complete : IsSequence code) (rest : Coloured t shown) :
      Coloured t (code ++ shown)

namespace Coloured

theorem refl (t : Text) : Coloured t t := by
  induction t with
  | nil => exact nil
  | cons c t ih => exact ih.keep c

theorem append_left (before : Text) {t shown : Text} (coloured : Coloured t shown) :
    Coloured (before ++ t) (before ++ shown) := by
  induction before with
  | nil => exact coloured
  | cons c before ih => exact ih.keep c

end Coloured

/-! ## One sequence -/

theorem isParameter_of_isIntermediate {c : Char} (intermediate : isIntermediate c = true) :
    isParameter c = false := by
  simp only [isIntermediate, decide_eq_true_eq] at intermediate
  simp only [isParameter, decide_eq_false_iff_not]
  omega

section Final
variable {c : Char} (final : isFinal c = true)
include final

theorem isParameter_of_isFinal : isParameter c = false := by
  simp only [isFinal, decide_eq_true_eq] at final
  simp only [isParameter, decide_eq_false_iff_not]
  omega

theorem isIntermediate_of_isFinal : isIntermediate c = false := by
  simp only [isFinal, decide_eq_true_eq] at final
  simp only [isIntermediate, decide_eq_false_iff_not]
  omega

end Final

theorem afterControl?_append {parameters intermediates : Text} {last : Char}
    (allParameters : ∀ c ∈ parameters, isParameter c = true)
    (allIntermediates : ∀ c ∈ intermediates, isIntermediate c = true)
    (ends : isFinal last = true) (t : Text) :
    afterControl? (parameters ++ (intermediates ++ last :: t)) = some t := by
  have parametersStop : (intermediates ++ last :: t).dropWhile isParameter =
      intermediates ++ last :: t := by
    cases intermediates with
    | nil => exact List.dropWhile_cons_of_neg (by simp [isParameter_of_isFinal ends])
    | cons c intermediates =>
        have other := isParameter_of_isIntermediate (allIntermediates c List.mem_cons_self)
        exact List.dropWhile_cons_of_neg (by simp [other])
  have intermediatesStop : (last :: t).dropWhile isIntermediate = last :: t :=
    List.dropWhile_cons_of_neg (by simp [isIntermediate_of_isFinal ends])
  rw [afterControl?, List.dropWhile_append_of_pos allParameters, parametersStop,
    List.dropWhile_append_of_pos allIntermediates, intermediatesStop]
  simp [ends]

theorem afterSequence?_bracket (t : Text) : afterSequence? escape ('[' :: t) = afterControl? t := by
  have notSingle : escape ≠ controlIntroducer := by decide
  simp [afterSequence?, notSingle]

theorem afterSequence?_controlIntroducer (t : Text) :
    afterSequence? controlIntroducer t = afterControl? t :=
  if_pos rfl

theorem afterSequence?_short {last : Char} (ends : isShortFinal last = true) (t : Text) :
    afterSequence? escape (last :: t) = some t := by
  have notSingle : escape ≠ controlIntroducer := by decide
  have notBracket : last ≠ '[' := by
    rintro rfl
    exact absurd ends (by decide)
  rw [afterSequence?, if_neg notSingle]
  split
  · rfl
  · contradiction
  · exact notBracket

theorem strip_append_of_isSequence {code : Text} (complete : IsSequence code) (t : Text) :
    strip (code ++ t) = strip t := by
  have removed : ∀ {introducer : Char} {tail : Text}, isIntroducer introducer = true →
      afterSequence? introducer tail = some t → strip (introducer :: tail) = strip t := by
    intro introducer tail starts found
    rw [strip_cons_introducer starts, found, Option.getD_some]
  cases complete with
  | @control opening parameters intermediates last opens allParameters allIntermediates ends =>
      have behind := afterControl?_append allParameters allIntermediates ends t
      have whole : opening ++ (parameters ++ (intermediates ++ [last])) ++ t =
          opening ++ (parameters ++ (intermediates ++ last :: t)) := by simp
      rw [whole]
      rcases opens with rfl | rfl
      · exact removed (by decide) ((afterSequence?_bracket _).trans behind)
      · exact removed (by decide) ((afterSequence?_controlIntroducer _).trans behind)
  | short ends => exact removed (by decide) (afterSequence?_short ends t)

/-! ## Whole texts -/

/-- Stripping gives back a text of which no character starts a sequence, however it is coloured. -/
theorem strip_of_coloured {t shown : Text} (coloured : Coloured t shown)
    (plain : hasEscape t = false) : strip shown = t := by
  induction coloured with
  | nil => exact strip_nil
  | keep c rest ih =>
      simp only [hasEscape, List.any_cons, Bool.or_eq_false_iff] at plain
      rw [strip_cons_plain plain.1, ih plain.2]
  | insert complete rest ih => rw [strip_append_of_isSequence complete, ih plain]

end BuildLog.Terminal
