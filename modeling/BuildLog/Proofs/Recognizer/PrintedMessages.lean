import BuildLog.Proofs.Recognizer.CodeLabels
import BuildLog.Recognizer.Compilers
import BuildLog.Recognizer.Runners

/-!
# Messages that are printed and read back

Tools put a code in front of a message or behind it, and a bundler adds the name of a plugin.  A
reader takes one such label away and no more, so a message is read back even when it looks like a
label itself.
-/

set_option autoImplicit false

namespace BuildLog

open Text

/-! ## Codes behind a message -/

namespace TypeScript

theorem isTrailingCode_eq_false (front back : Text) {c : Char} (solid : isBlank c = false) :
    isTrailingCode (front ++ c :: ' ' :: back) = false := by
  cases front with
  | nil => simp [isTrailingCode, solid]
  | cons d front =>
      have start : trimStart (front ++ c :: ' ' :: back) = trimStart front ++ c :: ' ' :: back :=
        dropWhile_append_stop solid front (' ' :: back)
      rw [List.cons_append, isTrailingCode, start]
      cases found : after? "TS".toList (trimStart front ++ c :: ' ' :: back) with
      | none => simp
      | some digits =>
          have split := after?_eq_some_iff.1 found
          have blank : ' ' ∈ "TS".toList ++ digits := split ▸ (by simp)
          have inside : ' ' ∈ digits := (List.mem_append.1 blank).resolve_left (by decide)
          have other : digits.all isDecimalDigit = false :=
            List.all_eq_false.2 ⟨' ', inside, by decide⟩
          simp [other]

theorem isTrailingCode_render {code : CodeLabel.Code} (known : code.letters = "TS".toList) :
    isTrailingCode ("  ".toList ++ code.render) = true := by
  have start : trimStart (' ' :: code.render) = code.render :=
    (List.dropWhile_cons_of_pos (by decide)).trans code.filled_render.trimStart_eq
  have digits : after? "TS".toList code.render = some code.digits :=
    after?_eq_some_iff.2 (by rw [CodeLabel.Code.render, known])
  have blank : isBlank ' ' = true := by decide
  have whole : "  ".toList ++ code.render = ' ' :: ' ' :: code.render := rfl
  rw [whole, isTrailingCode, start, digits]
  simp [blank, code.decimal, code.numbered]

theorem cutBefore_trailingCode {code : CodeLabel.Code} (known : code.letters = "TS".toList)
    {message : Text} (filled : Filled message) :
    cutBefore isTrailingCode (message ++ ("  ".toList ++ code.render)) = message := by
  apply cutBefore_append (isTrailingCode_render known) (by simp)
  intro ending nonempty suffix
  obtain ⟨front, c, rfl, solid⟩ := filled.exists_last
  rcases List.suffix_concat_iff.1 suffix with empty | ⟨start, rfl, -⟩
  · exact absurd empty nonempty
  · simpa using isTrailingCode_eq_false start (' ' :: code.render) solid

end TypeScript

/-! ## The header of a bundler block -/

namespace Bundler

def blockHeader (code : CodeLabel.Code) (message plugin : Text) : Text :=
  errorMark ++ ' ' :: code.label message ++ " [plugin ".toList ++ plugin ++ [']']

theorem isPluginTag_plugin {plugin : Text} (closed : ']' ∉ plugin) :
    isPluginTag (" [plugin ".toList ++ plugin ++ [']']) = true := by
  have start : after? "[plugin ".toList (trimStart (" [plugin ".toList ++ plugin ++ [']'])) =
      some (plugin ++ [']']) := rfl
  have kept : ∀ c ∈ plugin, (decide (c ≠ ']')) = true := by
    intro c member
    exact decide_eq_true fun same => closed (same ▸ member)
  have name : (plugin ++ [']']).dropWhile (· ≠ ']') = [']'] := by
    rw [List.dropWhile_append_of_pos kept]
    rfl
  rw [isPluginTag, start]
  simp only [name]
  rfl

theorem isPluginTag_eq_false {front : Text} {c : Char} (solid : isBlank c = false)
    (unnamed : ¬ "[plugin ".toList <:+: front ++ [c, ' ']) (back : Text) :
    isPluginTag (front ++ c :: ' ' :: '[' :: back) = false := by
  have start : trimStart (front ++ c :: ' ' :: '[' :: back) =
      (trimStart front ++ [c, ' ']) ++ '[' :: back := by
    have kept := dropWhile_append_stop solid front (' ' :: '[' :: back)
    simpa [trimStart] using kept
  have missing : after? "[plugin ".toList ((trimStart front ++ [c, ' ']) ++ '[' :: back) = none := by
    rw [after?_eq_none_iff]
    intro starts
    have inside : trimStart front ++ [c, ' '] <:+: front ++ [c, ' '] := by
      obtain ⟨dropped, split⟩ := trimStart_suffix front
      exact ⟨dropped, [], by rw [List.append_nil, ← List.append_assoc, split]⟩
    apply unnamed
    cases shown : trimStart front ++ [c, ' '] with
    | nil => simp at shown
    | cons d more =>
        rw [shown] at starts inside
        obtain ⟨rfl, tail⟩ := List.cons_prefix_cons.1 starts
        have within : "plugin ".toList <+: more := prefix_of_prefix_append_cons (by decide) tail
        exact ((List.prefix_cons_inj '[').2 within).isInfix.trans inside
  rw [isPluginTag, start, missing]

theorem headerMessage_blockHeader (code : CodeLabel.Code) {message plugin : Text}
    (filled : Filled message) (unnamed : ¬ "[plugin ".toList <:+: message ++ [' '])
    (closed : ']' ∉ plugin) : headerMessage (blockHeader code message plugin) = message := by
  have whole : Filled (blockHeader code message plugin) := by
    have mark : Filled errorMark := ⟨by decide, by decide⟩
    have bracket : Filled [']'] := ⟨by decide, by decide⟩
    simpa [blockHeader] using
      mark.append bracket (' ' :: code.label message ++ " [plugin ".toList ++ plugin)
  have behindMark : after? errorMark (blockHeader code message plugin) =
      some (' ' :: code.label message ++ (" [plugin ".toList ++ plugin ++ [']'])) :=
    after?_eq_some_iff.2 (by simp [blockHeader])
  have noBracket : '[' ∉ code.render := by
    intro member
    rcases CodeLabel.Code.kind_of_mem_render member with capital | digit
    · exact absurd capital (by decide)
    · exact absurd digit (by decide)
  have fresh : ¬ "[plugin ".toList <:+: ' ' :: code.label message ++ [' '] := by
    intro inside
    apply unnamed
    have labelled : ' ' :: code.label message ++ [' '] =
        (' ' :: code.render ++ ": ".toList) ++ (message ++ [' ']) := by
      simp [CodeLabel.Code.label]
    have absent : '[' ∉ ' ' :: code.render ++ ": ".toList := by simp [noBracket]
    rw [labelled] at inside
    exact infix_of_infix_append absent inside
  -- the text is cut at the printed tag, since no tag starts in front of it
  have untagged : cutBefore isPluginTag
      (' ' :: code.label message ++ (" [plugin ".toList ++ plugin ++ [']'])) =
      ' ' :: code.label message := by
    apply cutBefore_append (isPluginTag_plugin closed) (by simp)
    intro ending nonempty suffix
    obtain ⟨front, c, last, solid⟩ := (code.filled_label filled).exists_last
    rw [last, ← List.cons_append] at suffix
    rcases List.suffix_concat_iff.1 suffix with empty | ⟨start, rfl, behind⟩
    · exact absurd empty nonempty
    · have unnamedThere : ¬ "[plugin ".toList <:+: start ++ [c, ' '] := by
        intro inside
        apply fresh
        obtain ⟨before, split⟩ := behind
        refine inside.trans ⟨before, [], ?_⟩
        rw [last, List.append_nil, ← List.append_assoc, split]
        simp
      simpa using isPluginTag_eq_false solid unnamedThere ("plugin ".toList ++ plugin ++ [']'])
  rw [headerMessage, whole.trimmed, behindMark, Option.getD_some, untagged,
    CodeLabel.strip_cons_of_isBlank (by decide), CodeLabel.strip_label code filled]

end Bundler

end BuildLog
