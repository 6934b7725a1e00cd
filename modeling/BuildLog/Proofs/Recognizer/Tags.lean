import BuildLog.Recognizer.Compilers
import BuildLog.Recognizer.Runners

/-!
# The format of an attempt

A recognizer names its format in every record and in every failure, so an attempt shows which layout
was tried even when nothing came of it.
-/

set_option autoImplicit false

namespace BuildLog

def Attempt.format : Attempt → Format
  | .ok diagnostic => diagnostic.format
  | .error failure => failure.format

@[simp] theorem Attempt.format_ok (diagnostic : Diagnostic) :
    Attempt.format (.ok diagnostic) = diagnostic.format := rfl

@[simp] theorem Attempt.format_error (failure : Failure) :
    Attempt.format (.error failure) = failure.format := rfl

theorem Attempt.filter_toList_eq_nil (keep : Format → Bool) {found : Option Attempt}
    (other : ∀ attempt, found = some attempt → keep (Attempt.format attempt) = false) :
    found.toList.filter (fun attempt => keep attempt.format) = [] := by
  rw [List.filter_eq_nil_iff]
  intro attempt member
  simp [other attempt (Option.mem_toList.1 member)]

theorem Attempt.filter_accepted (chosen : Format → Bool) (attempts : List Attempt) :
    (attempts.filterMap accepted?).filter (fun diagnostic => chosen diagnostic.format) =
      (attempts.filter fun attempt => chosen attempt.format).filterMap accepted? := by
  rw [List.filter_filterMap, List.filterMap_filter]
  congr 1
  funext attempt
  cases attempt with
  | error failure => exact (ite_self none).symm
  | ok diagnostic => rfl

/-! ## Readers of a format -/

/-- How a reader of a format fails.  Only lint entries have no mark that is looked for before they
are read, so only they turn out not to be of their format at all. -/
inductive Format.OwnsFailure (format : Format) : Failure → Prop
  | noMatch (lint : format = .eslint ∨ format = .vue) : OwnsFailure format (.noMatch format)
  | unrecognized (reason : Text) : OwnsFailure format (.unrecognized format reason)
  | notANumber (field token : Text) : OwnsFailure format (.notANumber format field token)
  | emptyField (field : Text) : OwnsFailure format (.emptyField format field)

theorem Format.OwnsFailure.format_eq {format : Format} {failure : Failure}
    (owns : format.OwnsFailure failure) : failure.format = format := by
  cases owns with
  | noMatch lint => rfl
  | unrecognized reason => rfl
  | notANumber field token => rfl
  | emptyField field => rfl

/-- What a reader of a format makes of a text: a diagnostic of the format or one of its failures. -/
inductive Format.Owns (format : Format) : Attempt → Prop
  | accepted (record : Record) : Owns format (.ok ⟨format, record⟩)
  | dropped {failure : Failure} (owns : format.OwnsFailure failure) : Owns format (.error failure)

theorem Format.Owns.format_eq {format : Format} {attempt : Attempt} (owns : format.Owns attempt) :
    attempt.format = format := by
  cases owns with
  | accepted record => rfl
  | dropped owns => exact owns.format_eq

def Blames {α : Type} (format : Format) (reading : Except Failure α) : Prop :=
  ∀ failure, reading = .error failure → format.OwnsFailure failure

section Blames
variable {α β : Type} (format : Format)

theorem blames_bind {reading : Except Failure α} {next : α → Except Failure β}
    (first : Blames format reading) (later : ∀ a, Blames format (next a)) :
    Blames format (reading >>= next) := by
  intro failure failed
  cases reading with
  | error reason =>
      cases failed
      exact first failure rfl
  | ok a => exact later a failure failed

theorem Format.owns_bind {reading : Except Failure α} {next : α → Attempt}
    (first : Blames format reading) (later : ∀ a, format.Owns (next a)) :
    format.Owns (reading >>= next) := by
  cases reading with
  | error reason => exact .dropped (first reason rfl)
  | ok a => exact later a

/-! ## Locations -/

theorem blames_number (field token : Text) :
    Blames format (Location.number format field token) := by
  intro failure failed
  unfold Location.number at failed
  split at failed
  · cases failed
  · cases failed
    exact .notANumber field token

theorem blames_leadingNumber (field token : Text) :
    Blames format (Location.leadingNumber format field token) :=
  blames_number format field _

theorem blames_numbers (line column : Text) :
    Blames format (Location.numbers format line column) := by
  apply blames_bind format (blames_number format _ line)
  intro n
  apply blames_bind format (blames_number format _ column)
  intro m failure failed
  cases failed

theorem blames_coordinates (separator : Char) (t : Text) :
    Blames format (Location.coordinates format separator t) := by
  unfold Location.coordinates
  split
  · intro failure failed
    cases failed
    exact .unrecognized _
  · exact blames_numbers format _ _

theorem blames_read (t : Text) : Blames format (Location.read format t) := by
  unfold Location.read
  split
  · intro failure failed
    cases failed
    exact .unrecognized _
  · apply blames_bind format (blames_numbers format _ _)
    intro numbers failure failed
    cases failed

end Blames

/-! ## Records -/

theorem Diagnostic.owns_ofZeroBased (format : Format) (uri : Text) (line position : Nat)
    (error : Text) : format.Owns (ofZeroBased format uri line position error) := by
  unfold ofZeroBased Record.ofZeroBased
  split
  · exact .dropped (.emptyField _)
  · split
    · exact .dropped (.emptyField _)
    · exact .accepted _

theorem Diagnostic.owns_ofOneBased (format : Format) (uri : Text) (line column : Nat)
    (error : Text) : format.Owns (ofOneBased format uri line column error) :=
  owns_ofZeroBased format uri (line - 1) (column - 1) error

theorem Diagnostic.owns_atLocation (format : Format) (place : Location) (error : Text) :
    format.Owns (atLocation format place error) :=
  owns_ofOneBased format place.path place.line place.column error

/-! ## The layouts of the line pass -/

theorem Lint.owns_readEntry {format : Format} (lint : format = .eslint ∨ format = .vue)
    (file line : Text) : format.Owns (readEntry format file line) := by
  unfold readEntry
  split
  · exact .dropped (.noMatch lint)
  · next entry _ =>
      apply Format.owns_bind format (blames_numbers format entry.line entry.column)
      rintro ⟨line, column⟩
      exact Diagnostic.owns_ofOneBased format file line column entry.message

theorem TypeScript.owns_readWrapped (header message : Text) :
    Format.craTypescript.Owns (readWrapped header message) := by
  unfold readWrapped
  dsimp only
  split
  · exact .dropped (.unrecognized _)
  · next path inside _ =>
      apply Format.owns_bind .craTypescript (blames_coordinates .craTypescript ',' inside)
      rintro ⟨line, column⟩
      exact Diagnostic.owns_ofOneBased .craTypescript path line column _

theorem TypeScript.owns_readParenthesized (place message : Text) :
    Format.viteColon.Owns (readParenthesized place message) := by
  unfold readParenthesized
  split
  · exact .dropped (.unrecognized _)
  · next path inside _ =>
      apply Format.owns_bind .viteColon (blames_coordinates .viteColon ',' inside)
      rintro ⟨line, column⟩
      exact Diagnostic.owns_ofOneBased .viteColon path line column _

theorem TypeScript.owns_readComponent (place message : Text) :
    Format.vueTypescript.Owns (readComponent place message) := by
  apply Format.owns_bind .vueTypescript (blames_read .vueTypescript place)
  intro place
  exact Diagnostic.owns_atLocation .vueTypescript place _

theorem Script.owns_readSyntaxError (t : Text) : Format.syntaxError.Owns (readSyntaxError t) := by
  unfold readSyntaxError
  split
  · exact .dropped (.unrecognized _)
  · next path detail _ =>
      split
      · exact .dropped (.unrecognized _)
      · next message inside _ =>
          apply Format.owns_bind .syntaxError (blames_coordinates .syntaxError ':' inside)
          rintro ⟨line, column⟩
          exact Diagnostic.owns_ofOneBased .syntaxError path line column message

theorem Java.owns_read (header below : Text) : Format.java.Owns (read header below) := by
  unfold read
  split
  · exact .dropped (.unrecognized _)
  · split
    · exact .dropped (.unrecognized _)
    · next path line _ =>
        apply Format.owns_bind .java (blames_number .java _ line)
        intro line
        exact Diagnostic.owns_ofZeroBased .java path (line - 1) 0 _

theorem TestRunner.owns_readFrame (message frame : Text) :
    Format.jasmine.Owns (readFrame message frame) := by
  unfold readFrame
  split
  · exact .dropped (.unrecognized _)
  · split
    · exact .dropped (.unrecognized _)
    · next inside _ =>
        apply Format.owns_bind .jasmine (blames_read .jasmine inside)
        intro place
        exact Diagnostic.owns_atLocation .jasmine place message

/-! ## The layouts of the last pass -/

theorem Bundler.owns_readNested (message place : Text) :
    Format.viteBlock.Owns (readNested message place) := by
  apply Format.owns_bind .viteBlock (blames_read .viteBlock place)
  intro place
  exact Diagnostic.owns_atLocation .viteBlock place message

theorem TypeScript.owns_readBatch (place message : Text) :
    Format.typescriptBatch.Owns (readBatch place message) := by
  apply Format.owns_bind .typescriptBatch (blames_read .typescriptBatch place)
  intro place
  exact Diagnostic.owns_atLocation .typescriptBatch place _

theorem TypeScript.owns_readLabelled (line rest : Text) :
    Format.genericError.Owns (readLabelled line rest) := by
  unfold readLabelled
  split
  · next row column _ _ =>
      apply Format.owns_bind .genericError (blames_leadingNumber .genericError _ row)
      intro row
      apply Format.owns_bind .genericError (blames_leadingNumber .genericError _ column)
      intro column
      split
      · exact .dropped (.unrecognized _)
      · exact Diagnostic.owns_ofOneBased .genericError _ row column _
  · exact .dropped (.unrecognized _)

theorem TestRunner.owns_readTitle (path title : Text) :
    Format.jest.Owns (readTitle path title) :=
  Diagnostic.owns_ofZeroBased .jest path 0 0 _

/-! ## The layouts of the block pass -/

theorem Bundler.owns_readCompilation (block : List Text) :
    Format.nextJs.Owns (readCompilation block) := by
  unfold readCompilation
  split
  · split
    · exact .dropped (.unrecognized _)
    · split
      · exact .dropped (.unrecognized _)
      · next place _ =>
          apply Format.owns_bind .nextJs (blames_read .nextJs _)
          intro place
          exact Diagnostic.owns_atLocation .nextJs place _
  · exact .dropped (.unrecognized _)

theorem Lint.owns_readReport (block : List Text) : Format.lintStyle.Owns (readReport block) := by
  unfold readReport
  split
  · split
    · exact .dropped (.unrecognized _)
    · split
      · exact .dropped (.unrecognized _)
      · next line column _ =>
          apply Format.owns_bind .lintStyle (blames_numbers .lintStyle line column)
          rintro ⟨line, column⟩
          exact Diagnostic.owns_ofOneBased .lintStyle _ line column _
  · exact .dropped (.unrecognized _)

theorem Bundler.owns_readBlock (block : List Text) : Format.esbuild.Owns (readBlock block) := by
  unfold readBlock
  split
  · next place _ =>
      apply Format.owns_bind .esbuild (blames_read .esbuild place)
      intro place
      exact Diagnostic.owns_atLocation .esbuild place _
  · exact .dropped (.unrecognized _)

/-! ## The Swift compiler -/

theorem Swift.owns_read (candidate context : Text) :
    Format.xcode.Owns (read candidate context) := by
  unfold read
  dsimp only
  split
  · next line column _ _ =>
      apply Format.owns_bind .xcode (blames_numbers .xcode line column)
      rintro ⟨line, column⟩
      dsimp only
      split
      · exact .dropped (.unrecognized _)
      · exact Diagnostic.owns_ofOneBased .xcode _ line column _
  · exact .dropped (.unrecognized _)
  · exact .dropped (.unrecognized _)

end BuildLog
