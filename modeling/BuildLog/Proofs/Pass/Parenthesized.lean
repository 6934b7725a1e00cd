import BuildLog.Proofs.Pass.Alone
import BuildLog.Proofs.Recognizer.PrintedMessages
import BuildLog.Proofs.Recognizer.PrintedPlaces

/-!
# Places with their coordinates in parentheses

Three layouts print the coordinates of a place in parentheses, two behind the path and one behind
the message.  The group that is printed is the last one of its text, and what is cut away on either
side of it is what was printed there, so path and message are reported as they are, with whatever
parentheses, commas and codes they have.
-/

set_option autoImplicit false

namespace BuildLog

open Text

/-! ## What the tools print -/

namespace TypeScript

/-- As in `path(5,3): error TS2304: message`. -/
def parenthesizedLine (place : Location) (code : CodeLabel.Code) (message : Text) : Text :=
  place.path ++ place.group ',' ++ ": error ".toList ++ code.label message

/-- As in `TypeScript error in path(5,3):`. -/
def wrappedLine (place : Location) : Text :=
  "TypeScript error in ".toList ++ (place.path ++ place.group ',' ++ [':'])

def trailedLine (code : CodeLabel.Code) (message : Text) : Text :=
  message ++ ("  ".toList ++ code.render)

end TypeScript

/-- As in `SyntaxError: path: message (5:3)`. -/
def Script.syntaxErrorLine (place : Location) (message : Text) : Text :=
  "SyntaxError:".toList ++
    (' ' :: place.path ++ ':' :: ' ' :: message ++ [' '] ++ place.group ':')

/-! ## Reading it -/

theorem Location.filled_group (separator : Char) (place : Location) :
    Filled (place.group separator) := by
  have opening : Filled ['('] := ⟨by decide, by decide⟩
  have closing : Filled [')'] := ⟨by decide, by decide⟩
  exact opening.append closing (Numeral.render place.line ++ separator ::
    Numeral.render place.column)

theorem Filled.append_group {front : Text} (filled : Filled front) (separator : Char)
    (place : Location) : Filled (front ++ place.group separator) := by
  simpa using filled.append (place.filled_group separator) []

section Reading
variable {place : Location} {message : Text} (legible : place.Legible) (filled : Filled message)

namespace TypeScript

include legible in
theorem wrappedHeader?_wrappedLine :
    wrappedHeader? (wrappedLine place) = some (place.path ++ place.group ',' ++ [':']) := by
  have colon : Filled [':'] := ⟨by decide, by decide⟩
  have whole : Filled (wrappedLine place) :=
    .of_append (by decide) (by decide) (legible.filled.append colon (place.group ','))
  rw [wrappedHeader?, whole.trimmed]
  exact after?_append _ _

include legible filled

theorem parenthesized?_parenthesizedLine (code : CodeLabel.Code)
    (unmarked : ¬ ": error ".toList <:+: place.path) :
    parenthesized? (parenthesizedLine place code message) =
      some (.ok ⟨.viteColon, place.path, place.line - 1, place.column - 1, message⟩) := by
  have digits : ∀ n, ' ' ∉ Numeral.render n := Numeral.not_mem_render (by decide)
  have overlaps : OverlapsUpTo 0 ": error ".toList := by decide
  have fresh : ¬ ": error ".toList <:+: place.path ++ place.group ',' := by
    intro inside
    -- the mark has no parenthesis, so it stands on one side of the opening one
    rcases infix_or_infix_of_append_cons (by decide) inside with here | there
    · exact unmarked here
    · have needed : ' ' ∈ ": error ".toList := by decide
      exact not_infix_of_not_mem needed (by simp [digits]) there
  have cut := cut?_append_fresh overlaps fresh (code.label message)
  have group := Location.lastGroup?_group place.path (show ',' ≠ '(' by decide) place
  have coordinates := legible.coordinates_render .viteColon (show ','.isDigit = false by decide)
  rw [parenthesized?, parenthesizedLine, cut, Option.map_some, readParenthesized,
    (legible.filled.append_group ',' place).trimmed, group]
  simp only [coordinates, CodeLabel.strip_label code filled]
  exact congrArg some (Diagnostic.ofOneBased_of_filled .viteColon legible.filled filled)

theorem readWrapped_trailedLine {code : CodeLabel.Code} (known : code.letters = "TS".toList) :
    readWrapped (place.path ++ place.group ',' ++ [':']) (trailedLine code message) =
      .ok ⟨.craTypescript, place.path, place.line - 1, place.column - 1, message⟩ := by
  have colon : Filled [':'] := ⟨by decide, by decide⟩
  have header : trim (place.path ++ place.group ',' ++ [':']) =
      place.path ++ place.group ',' ++ [':'] :=
    (legible.filled.append colon (place.group ',')).trimmed
  have withoutColon : dropEndWhile (· = ':') (place.path ++ place.group ',' ++ [':']) =
      place.path ++ place.group ',' := by
    have closing : ∀ c ∈ [')'], decide (c = ':') = false := by simp
    have ends : ∀ c ∈ [':'], decide (c = ':') = true := by simp
    have dropped := dropEndWhile_append (List.cons_ne_nil ')' []) closing ends
      (place.path ++ '(' :: (Numeral.render place.line ++ ',' :: Numeral.render place.column))
    simpa [Location.group] using dropped
  have line : trim (trailedLine code message) = trailedLine code message := by
    simpa [trailedLine] using (filled.append code.filled_render "  ".toList).trimmed
  have group := Location.lastGroup?_group place.path (show ',' ≠ '(' by decide) place
  have coordinates := legible.coordinates_render .craTypescript
    (show ','.isDigit = false by decide)
  rw [readWrapped, line, trailedLine, cutBefore_trailingCode known filled]
  simp only [header, withoutColon, group, coordinates]
  exact Diagnostic.ofOneBased_of_filled .craTypescript legible.filled filled

end TypeScript

include legible filled in
theorem Script.syntaxError?_syntaxErrorLine (plain : ':' ∉ place.path) :
    syntaxError? (syntaxErrorLine place message) =
      some (.ok ⟨.syntaxError, place.path, place.line - 1, place.column - 1, message⟩) := by
  have blank : isBlankLine [' '] = true := by decide
  have word : Filled "SyntaxError:".toList := ⟨by decide, by decide⟩
  have whole : Filled (syntaxErrorLine place message) := by
    unfold syntaxErrorLine
    rw [← List.append_assoc]
    exact word.append (place.filled_group ':') _
  have path : ':' ∉ ' ' :: place.path := by simp [plain]
  have cut : cut? [':'] (' ' :: place.path ++ ':' :: ' ' :: message ++ [' '] ++ place.group ':') =
      some (' ' :: place.path, ' ' :: message ++ [' '] ++ place.group ':') := by
    simpa using cut?_singleton path (' ' :: message ++ [' '] ++ place.group ':')
  have group := Location.lastGroup?_group (' ' :: message ++ [' ']) (show ':' ≠ '(' by decide) place
  have coordinates := legible.coordinates_render .syntaxError (show ':'.isDigit = false by decide)
  have named : trim (' ' :: place.path) = place.path := by
    rw [trim_cons_of_isBlank (by decide), legible.filled.trimmed]
  have spoken : trim (' ' :: message ++ [' ']) = message := filled.trim_between blank blank
  have record := Diagnostic.ofOneBased_eq_ok .syntaxError place.line place.column
    (named.symm ▸ legible.filled.nonempty) (spoken.symm ▸ filled.nonempty)
  have behind : after? "SyntaxError:".toList (syntaxErrorLine place message) =
      some (' ' :: place.path ++ ':' :: ' ' :: message ++ [' '] ++ place.group ':') :=
    after?_append _ _
  rw [syntaxError?, whole.trimmed, behind, Option.map_some, readSyntaxError, cut]
  simp only [group, coordinates]
  rw [named, spoken] at record
  exact congrArg some record

end Reading

/-! ## The records of a layout -/

namespace LinePass

open TypeScript Script

section Members
variable (settings : Settings) (folder : Text)

theorem wrappedWatcher_mem_zip :
    (.craTypescript, .paired wrappedHeader? readWrapped) ∈
      formats.zip (watchers settings folder) := by
  simp [formats, watchers]

theorem parenthesizedWatcher_mem_zip :
    (.viteColon, .single parenthesized?) ∈ formats.zip (watchers settings folder) := by
  simp [formats, watchers]

theorem syntaxErrorWatcher_mem_zip :
    (.syntaxError, .single syntaxError?) ∈ formats.zip (watchers settings folder) := by
  simp [formats, watchers]

end Members

/-- Every place and every message come back as they were printed, in each of the three layouts.  Two
of them look for a mark from the left, so the path may not hold that mark itself. -/
theorem records_of_parenthesized {place : Location} {message : Text} (settings : Settings)
    (folder : Text) (legible : place.Legible) (filled : Filled message) :
    let recordsOf := fun format lines =>
      Attempt.recordsOf format (attempts settings folder lines)
    let printed := fun format : Format => ([⟨format, place.path, place.line - 1, place.column - 1,
      message⟩] : List Diagnostic)
    (∀ code, ¬ ": error ".toList <:+: place.path →
        recordsOf .viteColon [parenthesizedLine place code message] = printed .viteColon) ∧
      (∀ code, code.letters = "TS".toList →
        recordsOf .craTypescript [wrappedLine place, trailedLine code message] =
          printed .craTypescript) ∧
      (':' ∉ place.path →
        recordsOf .syntaxError [syntaxErrorLine place message] = printed .syntaxError) := by
  intro recordsOf printed
  refine ⟨?parenthesized, ?wrapped, ?syntaxError⟩
  case parenthesized =>
    intro code unmarked
    have line := parenthesized?_parenthesizedLine legible filled code unmarked
    have own := recordsOf_attempts (parenthesizedWatcher_mem_zip settings folder)
      [parenthesizedLine place code message]
    rw [Panel.attempts_single, line] at own
    exact own
  case wrapped =>
    intro code known
    have header := wrappedHeader?_wrappedLine legible
    have line := readWrapped_trailedLine legible filled known
    have own := recordsOf_attempts (wrappedWatcher_mem_zip settings folder)
      [wrappedLine place, trailedLine code message]
    rw [attempts_paired_pair, header, Option.map_some, line] at own
    exact own
  case syntaxError =>
    intro plain
    have line := syntaxError?_syntaxErrorLine legible filled plain
    have own := recordsOf_attempts (syntaxErrorWatcher_mem_zip settings folder)
      [syntaxErrorLine place message]
    rw [Panel.attempts_single, line] at own
    exact own

/-- A path that ends like the coordinates and a message that starts and ends like a code. -/
theorem records_of_parenthesized_coordinates_in_path :
    let place : Location := ⟨"app/(tabs) b/c (7,8).ts".toList, 5, 3⟩
    let message := "TS99: no (x: y) here TS1".toList
    let code : CodeLabel.Code :=
      ⟨"TS".toList, "2304".toList, by decide, by decide, by decide, by decide⟩
    let recordsOf := fun format lines =>
      Attempt.recordsOf format (attempts {} "/proj".toList lines)
    let printed := fun format : Format =>
      ([⟨format, place.path, 4, 2, message⟩] : List Diagnostic)
    parenthesizedLine place code message =
        "app/(tabs) b/c (7,8).ts(5,3): error TS2304: TS99: no (x: y) here TS1".toList ∧
      place.Legible ∧ Filled message ∧ ¬ ": error ".toList <:+: place.path ∧
      code.letters = "TS".toList ∧ ':' ∉ place.path ∧
      recordsOf .viteColon [parenthesizedLine place code message] = printed .viteColon ∧
      recordsOf .craTypescript [wrappedLine place, trailedLine code message] =
        printed .craTypescript ∧
      recordsOf .syntaxError [syntaxErrorLine place message] = printed .syntaxError := by
  intro place message code recordsOf printed
  have legible : place.Legible := ⟨⟨by decide, by decide⟩, by decide, by decide⟩
  have filled : Filled message := ⟨by decide, by decide⟩
  have unmarked : ¬ ": error ".toList <:+: place.path := by decide
  have plain : ':' ∉ place.path := by decide
  obtain ⟨parenthesized, wrapped, syntaxError⟩ :=
    records_of_parenthesized {} "/proj".toList legible filled
  exact ⟨by decide, legible, filled, unmarked, rfl, plain, parenthesized code unmarked,
    wrapped code rfl, syntaxError plain⟩

end LinePass

end BuildLog
