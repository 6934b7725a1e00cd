import BuildLog.Proofs.Extraction.Passes
import BuildLog.Proofs.Pass.LineLayouts
import BuildLog.Proofs.Recognizer.Places
import BuildLog.Proofs.Text.Trimming

/-!
# Settings that change wording only

The message of a failed test is shortened when its line is read, and judged empty or not one line
later, when the stack frame has come.  Whatever the lengths are, a message is empty after shortening
exactly when it was before, so the lengths decide how it reads and not whether it is reported.
-/

set_option autoImplicit false

namespace BuildLog

open Text

def Settings.withLengths (settings : Settings) (most head tail : Nat) : Settings :=
  { settings with jasmineMaxMessage := most, jasmineHead := head, jasmineTail := tail }

/-- Two diagnostics that differ in the message of a failed test at most. -/
structure Diagnostic.Alike (first second : Diagnostic) : Prop where
  format : first.format = second.format
  uri : first.record.uri = second.record.uri
  line : first.record.line = second.record.line
  position : first.record.position = second.record.position
  error : first.format ≠ .jasmine → first.record.error = second.record.error

theorem Diagnostic.Alike.refl (diagnostic : Diagnostic) : diagnostic.Alike diagnostic :=
  ⟨rfl, rfl, rfl, rfl, fun _ => rfl⟩

def Attempt.Alike (first second : Attempt) : Prop :=
  Option.Rel Diagnostic.Alike first.accepted? second.accepted?

theorem Attempt.Alike.refl (attempt : Attempt) : Attempt.Alike attempt attempt := by
  rw [Alike]
  cases attempt.accepted? with
  | none => exact .none
  | some diagnostic => exact .some (.refl diagnostic)

/-! ## Messages of failed tests -/

namespace TestRunner

theorem trim_shorten_eq_nil_iff (settings : Settings) (message : Text) :
    trim (shorten settings message) = [] ↔ trim message = [] := by
  simp only [shorten]
  split
  · rw [trim_trim]
  · next long =>
      have pointInside : '.' ∈ (trim message).take settings.jasmineHead ++ "...".toList ++
          (trim message).drop ((trim message).length - settings.jasmineTail) := by
        simp
      constructor
      · intro empty
        have blank := isBlankLine_iff.1 (trim_eq_nil_iff.1 empty) '.' pointInside
        exact absurd blank (by decide)
      · intro empty
        simp [empty] at long

theorem alike_readFrame {first second : Text} (empty : trim first = [] ↔ trim second = [])
    (frame : Text) : Attempt.Alike (readFrame first frame) (readFrame second frame) := by
  rw [Attempt.Alike, readFrame, readFrame]
  split
  · exact .none
  · cases Location.lastGroup? frame with
    | none => exact .none
    | some sides =>
        simp only [Attempt.accepted?_bind]
        cases (Location.read .jasmine sides.2).toOption with
        | none => exact .none
        | some place =>
            simp only [Option.bind_some, Diagnostic.atLocation, Diagnostic.accepted?_ofOneBased,
              empty]
            split
            · exact .none
            · exact .some ⟨rfl, rfl, rfl, rfl, fun other => absurd rfl other⟩

end TestRunner

/-! ## The line pass -/

namespace LinePass

variable (settings : Settings) (most head tail : Nat) (folder : Text) (lines : List Text)

theorem alike_frameAt (i : Nat) :
    Option.Rel Attempt.Alike (frameAt settings folder lines i)
      (frameAt (settings.withLengths most head tail) folder lines i) := by
  simp only [frameAt, Option.bind_eq_bind]
  cases lines[i]? with
  | none => exact .none
  | some line =>
      cases above? lines 1 i with
      | none => exact .none
      | some header =>
          simp only [Option.bind_some]
          split
          · exact .none
          · cases cut? "Error:".toList header with
            | none => exact .none
            | some sides =>
                apply Option.Rel.some
                apply TestRunner.alike_readFrame
                rw [TestRunner.trim_shorten_eq_nil_iff, TestRunner.trim_shorten_eq_nil_iff]

theorem forall₂_toList {α β : Type} {relation : α → β → Prop} {first : Option α}
    {second : Option β} (related : Option.Rel relation first second) :
    List.Forall₂ relation first.toList second.toList := by
  cases related with
  | none => exact .nil
  | some here => exact .cons here .nil

theorem alike_attemptsAt (i : Nat) :
    List.Forall₂ Attempt.Alike (attemptsAt settings folder lines i)
      (attemptsAt (settings.withLengths most head tail) folder lines i) := by
  have same : ∀ attempts, List.Forall₂ Attempt.Alike attempts attempts := fun _ =>
    List.forall₂_same.2 fun attempt _ => .refl attempt
  have frame := forall₂_toList (alike_frameAt settings most head tail folder lines i)
  simp only [attemptsAt, List.flatMap_cons, List.flatMap_nil]
  exact List.rel_append (same _) (List.rel_append (same _) (List.rel_append (same _)
    (List.rel_append (same _) (List.rel_append (same _) (List.rel_append (same _)
      (List.rel_append frame (same _)))))))

theorem alike_records :
    List.Forall₂ Diagnostic.Alike
      ((attempts settings folder lines).filterMap Attempt.accepted?)
      ((attempts (settings.withLengths most head tail) folder lines).filterMap Attempt.accepted?) := by
  rw [attempts_eq_flatMap_attemptsAt, attempts_eq_flatMap_attemptsAt]
  refine List.rel_filterMap (R := Attempt.Alike) (fun _ _ alike => alike) ?_
  refine List.rel_flatMap (List.forall₂_same.2 fun i _ => rfl) ?_
  intro i j same
  cases same
  exact alike_attemptsAt settings most head tail folder lines i

end LinePass

/-! ## Extractions -/

namespace Extraction

/-- How long the messages of failed tests may be decides their wording alone: the phase and the
diagnostics are the same, one by one, up to these messages.  How many lines of a Swift build log are
passed over decides nothing about any other output. -/
theorem ofCapture_of_lengths (settings : Settings) (capture : Capture)
    (most head tail skip : Nat) :
    let one := ofCapture settings capture
    let other := ofCapture (settings.withLengths most head tail) capture
    one.phase = other.phase ∧
      List.Forall₂ Diagnostic.Alike one.diagnostics other.diagnostics ∧
      (one.phase ≠ some .xcode →
        ofCapture { settings with xcodeContextSkip := skip } capture = one) := by
  intro one other
  have same : ∀ diagnostics, List.Forall₂ Diagnostic.Alike diagnostics diagnostics := fun _ =>
    List.forall₂_same.2 fun diagnostic _ => .refl diagnostic
  cases kind : capture.isSwiftLog settings with
  | true =>
      have otherKind : capture.isSwiftLog (settings.withLengths most head tail) = true := kind
      have oneFound : one = _ := ofCapture_of_swiftLog kind
      have otherFound : other = _ := ofCapture_of_swiftLog otherKind
      rw [otherFound, oneFound]
      exact ⟨rfl, same _, fun swift => absurd rfl swift⟩
  | false =>
      have otherKind : capture.isSwiftLog (settings.withLengths most head tail) = false := kind
      have skipKind : capture.isSwiftLog { settings with xcodeContextSkip := skip } = false := kind
      have oneFound : one = _ := ofCapture_of_not_swiftLog kind
      have otherFound : other = _ := ofCapture_of_not_swiftLog otherKind
      have found : List.Forall₂ (fun pass other => pass.1 = other.1 ∧
          List.Forall₂ Diagnostic.Alike (pass.2 capture).diagnostics
            (other.2 capture).diagnostics)
          (passes settings) (passes (settings.withLengths most head tail)) :=
        .cons ⟨rfl, same _⟩ (.cons ⟨rfl, LinePass.alike_records settings most head tail _ _⟩
          (.cons ⟨rfl, same _⟩ .nil))
      have related := runPasses_related found
      rw [← oneFound, ← otherFound] at related
      refine ⟨related.1, related.2, ?_⟩
      intro _
      rw [ofCapture_of_not_swiftLog skipKind, oneFound]
      rfl

/-- A message that is kept whole, and one of which nothing but the ellipsis is left. -/
theorem ofCapture_of_lengths_zero :
    let capture : Capture := { logs :=
      ["Error: Expected 1 to be 2.".toList, "  at it (a.spec.ts:5:9)".toList] }
    let one := ofCapture {} capture
    let other := ofCapture { jasmineMaxMessage := 0, jasmineHead := 0, jasmineTail := 0 } capture
    one.diagnostics = [⟨.jasmine, "a.spec.ts".toList, 4, 8, "Expected 1 to be 2.".toList⟩] ∧
      other.diagnostics = [⟨.jasmine, "a.spec.ts".toList, 4, 8, "...".toList⟩] ∧
      one.phase = other.phase ∧
      List.Forall₂ Diagnostic.Alike one.diagnostics other.diagnostics ∧
      ofCapture { xcodeContextSkip := Numeral.limit - 1 } capture = one := by
  intro capture one other
  obtain ⟨phase, alike, skipped⟩ := ofCapture_of_lengths {} capture 0 0 0 (Numeral.limit - 1)
  refine ⟨?_, ?_, phase, alike, skipped ?_⟩
  · decide +kernel
  · decide +kernel
  · decide +kernel

end Extraction

end BuildLog
