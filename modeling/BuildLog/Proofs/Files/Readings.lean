import BuildLog.Files.System

/-!
# Readings

A file or a stream gives bytes, or the reason why there are none.  The bytes are a text exactly when
they are its encoding in UTF-8, so a reading gives at most one text, and one that gives none fails
for a reason.
-/

set_option autoImplicit false

namespace BuildLog

/-! ## Texts in bytes -/

def encode (text : Text) : ByteArray :=
  (String.ofList text).toUTF8

theorem fromUTF8?_eq_some_iff {bytes : ByteArray} {string : String} :
    String.fromUTF8? bytes = some string ↔ bytes = string.toUTF8 := by
  unfold String.fromUTF8?
  constructor
  · intro found
    split at found
    · cases found
      rfl
    · cases found
  · rintro rfl
    exact dif_pos string.isValidUTF8

theorem decode_eq_ok_iff {bytes : ByteArray} {text : Text} :
    decode bytes = .ok text ↔ bytes = encode text := by
  rw [encode, ← fromUTF8?_eq_some_iff, decode]
  cases String.fromUTF8? bytes with
  | none => simp
  | some string =>
      rw [Except.ok.injEq, Option.some.injEq]
      constructor
      · rintro rfl
        exact String.ofList_toList.symm
      · rintro rfl
        exact String.toList_ofList

theorem eq_notUtf8_of_decode {bytes : ByteArray} {error : ReadError}
    (undecoded : decode bytes = .error error) : error = .notUtf8 := by
  unfold decode at undecoded
  split at undecoded
  · cases undecoded
  · cases undecoded
    rfl

theorem decode_eq_error_iff {bytes : ByteArray} {error : ReadError} :
    decode bytes = .error error ↔ (∀ text, bytes ≠ encode text) ∧ error = .notUtf8 := by
  constructor
  · intro undecoded
    refine ⟨?_, eq_notUtf8_of_decode undecoded⟩
    intro text same
    rw [decode_eq_ok_iff.2 same] at undecoded
    cases undecoded
  · rintro ⟨noText, rfl⟩
    cases decoded : decode bytes with
    | ok text => exact absurd (decode_eq_ok_iff.1 decoded) (noText text)
    | error error => rw [eq_notUtf8_of_decode decoded]

/-! ## What a reading gives -/

section Readings
variable {reading : Except ReadError ByteArray}

def Gives (reading : Except ReadError ByteArray) (text : Text) : Prop :=
  reading = .ok (encode text)

inductive Fails : Except ReadError ByteArray → ReadError → Prop where
  | unread (error : ReadError) : Fails (.error error) error
  | foreign {bytes : ByteArray} (noText : ∀ text, bytes ≠ encode text) : Fails (.ok bytes) .notUtf8

theorem bind_decode_eq_ok_iff {text : Text} :
    reading.bind decode = .ok text ↔ Gives reading text := by
  cases reading with
  | error error => simp [Except.bind, Gives]
  | ok bytes => simp [Except.bind, Gives, decode_eq_ok_iff]

theorem bind_decode_eq_error_iff {error : ReadError} :
    reading.bind decode = .error error ↔ Fails reading error := by
  cases reading with
  | error cause =>
      constructor
      · intro same
        cases same
        exact .unread error
      · rintro ⟨⟩
        rfl
  | ok bytes =>
      show decode bytes = .error error ↔ _
      rw [decode_eq_error_iff]
      constructor
      · rintro ⟨noText, rfl⟩
        exact .foreign noText
      · rintro ⟨⟩
        next noText => exact ⟨noText, rfl⟩

theorem exists_fails (silent : ∀ text, ¬ Gives reading text) : ∃ error, Fails reading error := by
  cases decoded : reading.bind decode with
  | ok text => exact absurd (bind_decode_eq_ok_iff.1 decoded) (silent text)
  | error error => exact ⟨error, bind_decode_eq_error_iff.1 decoded⟩

end Readings

end BuildLog
