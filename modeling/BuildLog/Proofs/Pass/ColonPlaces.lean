import BuildLog.Proofs.Pass.Alone
import BuildLog.Proofs.Pass.FallbackLayouts
import BuildLog.Proofs.Pass.LineLayouts
import BuildLog.Proofs.Recognizer.PrintedMessages
import BuildLog.Proofs.Recognizer.PrintedPlaces

/-!
# Places with colons, in front of a message or below it

Three layouts print a place as `path:line:column`, and each finds it in its own way: in front of a
mark, behind a mark in any case, and two lines below a header.  Whatever colons the path has, place
and message come back as they were printed.
-/

set_option autoImplicit false

namespace BuildLog

open Text

/-! ## What the tools print -/

namespace TypeScript

/-- As in `path:5:3 - error TS2304: message`. -/
def batchLine (place : Location) (code : CodeLabel.Code) (message : Text) : Text :=
  place.render ++ " - error ".toList ++ code.label message

/-- As in `ERROR  in path:5:3`, with the mark spelled as the tool likes. -/
def componentLine (before mark : Text) (place : Location) : Text :=
  before ++ mark ++ place.render

end TypeScript

/-- As in `  path:5:3:`. -/
def Bundler.placeLine (place : Location) : Text :=
  "  ".toList ++ (place.render ++ [':'])

/-! ## Marks around a place -/

namespace Location

theorem infix_path_of_infix_render {place : Location} {mark behind : Text} (unbroken : ':' ∉ mark)
    {c : Char} (needed : c ∈ mark) (other : c.isDigit = false) (absent : c ∉ behind)
    (inside : mark <:+: place.render ++ behind) : mark <:+: place.path := by
  have split : place.render ++ behind = (place.path ++ ':' :: Numeral.render place.line) ++
      ':' :: (Numeral.render place.column ++ behind) := by
    simp [render]
  have digits : ∀ n, c ∉ Numeral.render n := Numeral.not_mem_render other
  rw [split] at inside
  rcases infix_or_infix_of_append_cons unbroken inside with front | column
  · rcases infix_or_infix_of_append_cons unbroken front with path | line
    · exact path
    · exact absurd line (not_infix_of_not_mem needed (digits _))
  · exact absurd column (not_infix_of_not_mem needed (by simp [digits, absent]))

/-- A printed place does not start with a word, a colon and a blank unless its path does: behind the
colon of a printed place stands a digit. -/
theorem not_prefix_render_append {place : Location} {word : Text}
    (solid : (word ++ [':', ' ']).all (!·.isDigit) = true)
    (unlabelled : ¬ word ++ [':', ' '] <+: place.path) (behind : Text) :
    ¬ word ++ [':', ' '] <+: place.render ++ behind := by
  intro starts
  obtain ⟨d, digits, split, digit⟩ := Numeral.exists_first_digit place.line
  have absent : d ∉ word ++ [':', ' '] := by
    intro member
    have other := List.all_eq_true.1 solid d member
    simp [digit] at other
  have whole : place.render ++ behind = (place.path ++ [':']) ++
      d :: (digits ++ ':' :: (Numeral.render place.column ++ behind)) := by
    simp [render, split]
  rw [whole] at starts
  rcases List.prefix_concat_iff.1 (prefix_of_prefix_append_cons absent starts) with same | within
  · have last := congrArg List.getLast? same
    simp at last
  · exact unlabelled within

end Location

/-! ## Reading what was printed -/

section Reading
variable {place : Location} {message : Text} (legible : place.Legible) (filled : Filled message)
include legible filled

namespace TypeScript

theorem statement?_batchLine {code : CodeLabel.Code} (known : code.letters = "TS".toList)
    (unmarked : ¬ "- error TS".toList <:+: place.path)
    (unlabelled : ¬ "Error: ".toList <+: place.path) :
    statement? (batchLine place code message) =
      some (.ok ⟨.typescriptBatch, place.path, place.line - 1, place.column - 1, message⟩) := by
  have overlaps : OverlapsUpTo 0 "- error TS".toList := by decide
  have fresh : ¬ "- error TS".toList <:+: place.render ++ [' '] := by
    intro inside
    have letter : 'S' ∈ "- error TS".toList := by decide
    exact unmarked (Location.infix_path_of_infix_render (by decide) letter (by decide) (by decide)
      inside)
  have cut : cut? "- error TS".toList (batchLine place code message) =
      some (place.render ++ [' '], code.digits ++ ": ".toList ++ message) := by
    have found := cut?_append_fresh overlaps fresh (code.digits ++ ": ".toList ++ message)
    simpa [batchLine, CodeLabel.Code.label, CodeLabel.Code.render, known] using found
  have bare : after? "Error: ".toList (batchLine place code message) = none := by
    rw [after?_eq_none_iff, batchLine, List.append_assoc]
    have solid : ("Error".toList ++ [':', ' ']).all (!·.isDigit) = true := by decide
    exact Location.not_prefix_render_append solid unlabelled _
  -- the end of the mark is given back to the message, where it is part of the label
  have back : "error TS".toList ++ (code.digits ++ ": ".toList ++ message) =
      "error ".toList ++ code.label message := by
    simp [CodeLabel.Code.label, CodeLabel.Code.render, known]
  have read := legible.read_render .typescriptBatch [] [' '] (by simp) rfl
  rw [List.append_nil] at read
  rw [statement?, bare]
  simp only [cut, Option.map_some]
  rw [back, readBatch, read, CodeLabel.strip_error_label code filled]
  exact congrArg some (Diagnostic.ofOneBased_of_filled .typescriptBatch legible.filled filled)

theorem readComponent_label (code : CodeLabel.Code) :
    readComponent place.render (code.label message) =
      .ok ⟨.vueTypescript, place.path, place.line - 1, place.column - 1, message⟩ := by
  have read := legible.read_render .vueTypescript [] [] (by simp) rfl
  rw [List.append_nil, List.append_nil] at read
  rw [readComponent, read, (code.filled_label filled).trimmed, CodeLabel.strip_label code filled]
  exact Diagnostic.ofOneBased_of_filled .vueTypescript legible.filled filled

end TypeScript

theorem Bundler.readNested_placeLine :
    readNested message (placeLine place) =
      .ok ⟨.viteBlock, place.path, place.line - 1, place.column - 1, message⟩ := by
  have read := legible.read_render .viteBlock [':'] [] (by simp) rfl
  rw [List.append_nil] at read
  rw [readNested, placeLine, Location.read_append .viteBlock (by decide), read]
  exact Diagnostic.ofOneBased_of_filled .viteBlock legible.filled filled

end Reading

theorem TypeScript.componentHeader?_componentLine {before mark : Text}
    (spelling : lowered mark = "error  in ".toList)
    (fresh : ¬ "error  in ".toList <:+: lowered before) (place : Location) :
    componentHeader? (componentLine before mark place) = some place.render := by
  have overlaps : OverlapsUpTo 0 "error  in ".toList := by decide
  rw [componentHeader?, componentLine, cutLowered?_append_fresh overlaps spelling fresh,
    Option.map_some]

/-! ## The records of a layout -/

namespace FallbackPass

theorem attempts_singleton (line : Text) :
    attempts [line] = (TypeScript.statement? line).toList := by
  have here : [line][0]? = some line := rfl
  have nested : nestedAt [line] 0 = none := nestedAt_of_lt_two [line] (by decide)
  have title : titleAt [line] 0 = none := by
    simp [titleAt, nearestAbove?]
  have statement : (statementAt [line] 0).toList = (TypeScript.statement? line).toList :=
    (answerAt_statement here).symm.trans (Watcher.answerAt_single here TypeScript.statement?)
  have single : attempts [line] = attemptsAt [line] 0 := by
    rw [attempts_eq_flatMap_attemptsAt]
    exact List.flatMap_singleton _ 0
  simp only [single, attemptsAt, nested, title, List.flatMap_cons, List.flatMap_nil, statement,
    Option.toList_none, List.nil_append, List.append_nil]

theorem filter_attempts_block {header : Text} (marked : Bundler.errorMark ++ [' '] <+: header)
    (between place : Text) :
    (attempts [header, between, place]).filter (fun attempt => attempt.format = .viteBlock) =
      [Bundler.readNested (Bundler.headerMessage header) place] := by
  have tried : tryOfHeader [header, between, place] 0 =
      some (Bundler.readNested (Bundler.headerMessage header) place) := by
    simp [tryOfHeader, startsWith_iff.2 marked]
  rw [filter_attempts]
  show [0].filterMap (tryOfHeader [header, between, place]) = _
  rw [List.filterMap_cons_some tried, List.filterMap_nil]

end FallbackPass

namespace LinePass

theorem componentWatcher_mem_zip (settings : Settings) (folder : Text) :
    (.vueTypescript, .patient TypeScript.componentHeader? fun place line =>
      some (TypeScript.readComponent place line)) ∈ formats.zip (watchers settings folder) := by
  simp [formats, watchers]

end LinePass

section Records

open TypeScript Bundler

/-- Every place and every message come back as they were printed, in each of the three layouts.  A
mark that is looked for from the left may not stand in the text in front of it.  A component's
header waits over blank lines, which make no record of their own, and a block ignores its second
line, whatever it says. -/
theorem records_of_colon_places {place : Location} {message : Text} (settings : Settings)
    (folder : Text) (legible : place.Legible) (filled : Filled message) :
    let printed := fun format : Format => ([⟨format, place.path, place.line - 1, place.column - 1,
      message⟩] : List Diagnostic)
    let fallback := fun format lines => Attempt.recordsOf format (FallbackPass.attempts lines)
    let components := fun lines =>
      Attempt.recordsOf .vueTypescript (LinePass.attempts settings folder lines)
    (∀ code, code.letters = "TS".toList → ¬ "- error TS".toList <:+: place.path →
        ¬ "Error: ".toList <+: place.path →
        fallback .typescriptBatch [batchLine place code message] = printed .typescriptBatch) ∧
      (∀ (code : CodeLabel.Code) (before mark : Text) (blanks : List Text),
        lowered mark = "error  in ".toList → ¬ "error  in ".toList <:+: lowered before →
        (∀ line ∈ blanks, isBlankLine line = true) →
        components (componentLine before mark place :: blanks) = [] ∧
          components (componentLine before mark place :: blanks ++ [code.label message]) =
            printed .vueTypescript) ∧
      (∀ (code : CodeLabel.Code) (plugin between : Text),
        ¬ "[plugin ".toList <:+: message ++ [' '] → ']' ∉ plugin →
        fallback .viteBlock [blockHeader code message plugin, between, placeLine place] =
          printed .viteBlock) := by
  intro printed fallback components
  refine ⟨?batch, ?component, ?block⟩
  case batch =>
    intro code known unmarked unlabelled
    have read := statement?_batchLine legible filled known unmarked unlabelled
    have attempted := FallbackPass.attempts_singleton (batchLine place code message)
    simp only [fallback]
    rw [attempted, read]
    rfl
  case component =>
    intro code before mark blanks spelling fresh blank
    have member := LinePass.componentWatcher_mem_zip settings folder
    have opened := componentHeader?_componentLine spelling fresh place
    have spoken := (code.filled_label filled).isBlankLine_eq_false
    have read := readComponent_label legible filled code
    obtain ⟨waiting, answered⟩ := Panel.attempts_patient
      (fun place line => some (readComponent place line))
      LinePass.componentHeader?_of_isBlankLine (componentLine before mark place) blank spoken
    rw [opened, Option.bind_some, read] at answered
    constructor
    · simp only [components]
      rw [LinePass.recordsOf_attempts member, waiting]
      rfl
    · simp only [components]
      rw [LinePass.recordsOf_attempts member, answered]
      rfl
  case block =>
    intro code plugin between unnamed closed
    have marked : errorMark ++ [' '] <+: blockHeader code message plugin :=
      ⟨code.label message ++ " [plugin ".toList ++ plugin ++ [']'], by simp [blockHeader]⟩
    have tried := FallbackPass.filter_attempts_block marked between (placeLine place)
    rw [headerMessage_blockHeader code filled unnamed closed, readNested_placeLine legible filled]
      at tried
    simp only [fallback]
    rw [Attempt.recordsOf, LinePass.filter_format_accepted, tried]
    rfl

/-- A path with colons that ends like a column, and a message with a label and marks of its own. -/
theorem records_of_colon_places_marks_in_message :
    let place : Location := ⟨"C:/my app/a.ts:7".toList, 12, 0⟩
    let message := "TS99: b.ts:1:2 - error TS1: error  in c".toList
    let code : CodeLabel.Code :=
      ⟨"TS".toList, "2304".toList, by decide, by decide, by decide, by decide⟩
    let before := "[vue] ".toList
    let mark := "Error  In ".toList
    let blanks := ["".toList, " \t".toList]
    let plugin := "vite:vue [sfc".toList
    let between := "✘ [ERROR] another".toList
    let printed := fun format : Format =>
      ([⟨format, place.path, 11, 0, message⟩] : List Diagnostic)
    let fallback := fun format lines => Attempt.recordsOf format (FallbackPass.attempts lines)
    let components := fun lines =>
      Attempt.recordsOf .vueTypescript (LinePass.attempts {} "/proj".toList lines)
    (place.Legible ∧ Filled message ∧ code.letters = "TS".toList ∧
      ¬ "- error TS".toList <:+: place.path ∧ ¬ "Error: ".toList <+: place.path ∧
      lowered mark = "error  in ".toList ∧ ¬ "error  in ".toList <:+: lowered before ∧
      (∀ line ∈ blanks, isBlankLine line = true) ∧
      ¬ "[plugin ".toList <:+: message ++ [' '] ∧ ']' ∉ plugin) ∧
    batchLine place code message =
        "C:/my app/a.ts:7:12:0 - error TS2304: TS99: b.ts:1:2 - error TS1: error  in c".toList ∧
      fallback .typescriptBatch [batchLine place code message] = printed .typescriptBatch ∧
      components (componentLine before mark place :: blanks) = [] ∧
      components (componentLine before mark place :: blanks ++ [code.label message]) =
        printed .vueTypescript ∧
      fallback .viteBlock [blockHeader code message plugin, between, placeLine place] =
        printed .viteBlock := by
  intro place message code before mark blanks plugin between printed fallback components
  have legible : place.Legible := ⟨⟨by decide, by decide⟩, by decide, by decide⟩
  have filled : Filled message := ⟨by decide, by decide⟩
  have unmarked : ¬ "- error TS".toList <:+: place.path := by decide
  have unlabelled : ¬ "Error: ".toList <+: place.path := by decide
  have spelling : lowered mark = "error  in ".toList := by decide
  have fresh : ¬ "error  in ".toList <:+: lowered before := by decide
  have blank : ∀ line ∈ blanks, isBlankLine line = true := by decide
  have unnamed : ¬ "[plugin ".toList <:+: message ++ [' '] := by decide
  have closed : ']' ∉ plugin := by decide
  obtain ⟨batch, component, block⟩ :=
    records_of_colon_places {} "/proj".toList legible filled
  obtain ⟨waiting, answered⟩ := component code before mark blanks spelling fresh blank
  exact ⟨⟨legible, filled, rfl, unmarked, unlabelled, spelling, fresh, blank, unnamed, closed⟩,
    by decide, batch code rfl unmarked unlabelled, waiting, answered,
    block code plugin between unnamed closed⟩

end Records

end BuildLog
