import BuildLog.Pass.Layouts
import BuildLog.Proofs.Pass.LineLayouts

/-!
# Marks that are looked for twice

A cheap test decides whether a line that goes by is of a layout: the line as it is, trimmed or in
lower case has to hold a mark.  What is read later is what was kept of that line, and a careful
reader looks for the mark in it again, and has an answer ready for the case that it is missing.
That answer is never given, whatever it is: the test and the search agree on every line that is kept.
-/

set_option autoImplicit false

namespace BuildLog

open Text

/-! ## Marks -/

/-- A mark as it is tested for when a line goes by and as it is searched when what was kept of the
line is read. -/
structure Mark (α : Type) where
  tests : Text → Bool
  keeps : Text → Text
  finds? : Text → Option α

namespace Mark

section Reread
variable {α β : Type} (mark : Mark α)

def kept? (line : Text) : Option Text :=
  if mark.tests line then some (mark.keeps line) else none

def reread (missing : β) (reads : α → β) (kept : Text) : β :=
  (mark.finds? kept).elim missing reads

/-- The test lets exactly those lines pass in which the mark is found later. -/
def Agrees : Prop :=
  ∀ line, mark.tests line = (mark.finds? (mark.keeps line)).isSome

variable {mark}

theorem Agrees.map_reread (agrees : mark.Agrees) (missing : β) (reads : α → β) (line : Text) :
    (mark.kept? line).map (mark.reread missing reads) =
      (mark.finds? (mark.keeps line)).map reads := by
  rw [kept?, agrees line]
  cases found : mark.finds? (mark.keeps line) with
  | none => rfl
  | some part =>
      rw [Option.isSome_some, if_pos rfl, Option.map_some, Option.map_some, reread, found,
        Option.elim_some]

theorem Agrees.kept?_eq_none (agrees : mark.Agrees) {line : Text}
    (absent : mark.finds? (mark.keeps line) = none) : mark.kept? line = none := by
  rw [kept?, agrees line, absent, Option.isSome_none, if_neg Bool.false_ne_true]

end Reread

end Mark

/-! ## Watchers that answer alike -/

def Watcher.Alike (first second : Watcher) : Prop :=
  ∀ lines i, first.answerAt lines i = second.answerAt lines i

namespace Watcher

theorem Alike.refl (watcher : Watcher) : watcher.Alike watcher :=
  fun _ _ => rfl

theorem answerAt_of_none (watcher : Watcher) {lines : List Text} {i : Nat}
    (beyond : lines[i]? = none) : watcher.answerAt lines i = [] := by
  rw [answerAt, Watch.answerAt, beyond]

theorem alike_single {reads others : Text → Option Attempt}
    (same : ∀ line, reads line = others line) : (single reads).Alike (single others) := by
  rw [funext same]
  exact Alike.refl _

section Headers
variable {opens keeps : Text → Option Text}

theorem alike_paired {reads others : Text → Text → Attempt}
    (same : ∀ header line, (opens header).map (reads · line) = (keeps header).map (others · line)) :
    (paired opens reads).Alike (paired keeps others) := by
  intro lines i
  cases here : lines[i]? with
  | none => rw [answerAt_of_none _ here, answerAt_of_none _ here]
  | some line =>
      rw [answerAt_paired here, answerAt_paired here, Option.map_bind, Option.map_bind]
      exact congrArg (fun read => ((above? lines 1 i).bind read).toList)
        (funext fun header => same header line)

theorem alike_patient {reads others : Text → Text → Option Attempt}
    (silent : ∀ line, isBlankLine line = true → opens line = none)
    (silentToo : ∀ line, isBlankLine line = true → keeps line = none)
    (same : ∀ header line, (opens header).bind (reads · line) = (keeps header).bind (others · line)) :
    (patient opens reads).Alike (patient keeps others) := by
  intro lines i
  cases here : lines[i]? with
  | none => rw [answerAt_of_none _ here, answerAt_of_none _ here]
  | some line =>
      rw [answerAt_patient here silent, answerAt_patient here silentToo]
      simp only [Option.bind_assoc, same]

end Headers

end Watcher

theorem Panel.attempts_of_alike {watchers others : List Watcher}
    (alike : List.Forall₂ Watcher.Alike watchers others) (lines : List Text) :
    (ofWatchers watchers).attempts lines = (ofWatchers others).attempts lines := by
  rw [attempts_ofWatchers, attempts_ofWatchers]
  apply List.flatMap_congr
  intro i _
  induction alike with
  | nil => rfl
  | cons first _ ih => rw [List.flatMap_cons, List.flatMap_cons, first lines i, ih]

/-! ## The marks of the line pass -/

namespace LinePass

def wrappedMark : Mark Text where
  tests line := startsWith "TypeScript error in ".toList (trim line)
  keeps := trim
  finds? := after? "TypeScript error in ".toList

def parenthesizedMark : Mark (Text × Text) where
  tests := occursIn ": error ".toList
  keeps := id
  finds? := cut? ": error ".toList

def componentMark : Mark Text where
  tests line := occursIn "error  in ".toList (lowered line)
  keeps := id
  finds? line := (cutLowered? "error  in ".toList line).map Prod.snd

def syntaxErrorMark : Mark Text where
  tests line := startsWith "SyntaxError:".toList (trim line)
  keeps := trim
  finds? := after? "SyntaxError:".toList

theorem agrees_wrappedMark : wrappedMark.Agrees :=
  fun _ => rfl

theorem agrees_parenthesizedMark : parenthesizedMark.Agrees :=
  fun _ => rfl

/-- The test is made on the line in lower case, the search cuts the line as it was written. -/
theorem agrees_componentMark : componentMark.Agrees := by
  intro line
  simp only [componentMark, id, occursIn, cutLowered?, Option.isSome_map]

theorem agrees_syntaxErrorMark : syntaxErrorMark.Agrees :=
  fun _ => rfl

section Doubting
variable (unmarked : Format → Attempt) (settings : Settings) (folder : Text)

/-- The watchers of the pass with readers that look for their mark again; without it they make the
attempt `unmarked`. -/
def doubting : List Watcher :=
  [ lintWatcher .eslint [".ts".toList, ".tsx".toList],
    .paired wrappedMark.kept? fun header line =>
      wrappedMark.reread (unmarked .craTypescript) (TypeScript.readWrapped · line) header,
    .single fun line => (parenthesizedMark.kept? line).map <|
      parenthesizedMark.reread (unmarked .viteColon) fun sides =>
        TypeScript.readParenthesized sides.1 sides.2,
    .patient componentMark.kept? fun header line => some <|
      componentMark.reread (unmarked .vueTypescript) (TypeScript.readComponent · line) header,
    .single fun line => (syntaxErrorMark.kept? line).map <|
      syntaxErrorMark.reread (unmarked .syntaxError) Script.readSyntaxError,
    .paired (Java.header? folder) Java.read,
    .paired (TestRunner.errorMessage? settings folder) TestRunner.readFrame,
    lintWatcher .vue [".vue".toList] ]

theorem alike_doubting :
    List.Forall₂ Watcher.Alike (doubting unmarked settings folder) (watchers settings folder) := by
  refine .cons (.refl _) (.cons ?wrapped (.cons ?parenthesized (.cons ?component
    (.cons ?syntaxError (.cons (.refl _) (.cons (.refl _) (.cons (.refl _) .nil)))))))
  case wrapped =>
    exact Watcher.alike_paired fun header line =>
      agrees_wrappedMark.map_reread _ (TypeScript.readWrapped · line) header
  case parenthesized => exact Watcher.alike_single (agrees_parenthesizedMark.map_reread _ _)
  case component =>
    have silent : ∀ line, isBlankLine line = true → componentMark.kept? line = none :=
      fun line blank => agrees_componentMark.kept?_eq_none (componentHeader?_of_isBlankLine line blank)
    refine Watcher.alike_patient silent componentHeader?_of_isBlankLine fun header line => ?_
    have same := agrees_componentMark.map_reread (unmarked .vueTypescript)
      (TypeScript.readComponent · line) header
    rw [Option.map_eq_bind, Option.map_eq_bind] at same
    exact same
  case syntaxError => exact Watcher.alike_single (agrees_syntaxErrorMark.map_reread _ _)

theorem attempts_doubting (lines : List Text) :
    (Panel.ofWatchers (doubting unmarked settings folder)).attempts lines =
      attempts settings folder lines :=
  Panel.attempts_of_alike (alike_doubting unmarked settings folder) lines

end Doubting

end LinePass

/-! ## The marks of the fallback pass -/

namespace FallbackPass

def labelledMark : Mark Text where
  tests := startsWith "Error: ".toList
  keeps := id
  finds? := after? "Error: ".toList

def batchMark : Mark (Text × Text) where
  tests := occursIn "- error TS".toList
  keeps := id
  finds? := cut? "- error TS".toList

theorem agrees_labelledMark : labelledMark.Agrees :=
  fun _ => rfl

theorem agrees_batchMark : batchMark.Agrees :=
  fun _ => rfl

section Doubting
variable (unmarked : Format → Attempt)

def doubtedStatement? (line : Text) : Option Attempt :=
  ((labelledMark.kept? line).map <|
      labelledMark.reread (unmarked .genericError) (TypeScript.readLabelled line)).or
    ((batchMark.kept? line).map <|
      batchMark.reread (unmarked .typescriptBatch) fun sides =>
        TypeScript.readBatch sides.1 ("error TS".toList ++ sides.2))

def doubting : List Watcher :=
  [ .distant Bundler.nestedHeader? Bundler.readNested,
    .single (doubtedStatement? unmarked),
    .patient TestRunner.suite? readBelowSuite ]

theorem doubtedStatement?_eq (line : Text) :
    doubtedStatement? unmarked line = TypeScript.statement? line := by
  rw [doubtedStatement?, agrees_labelledMark.map_reread, agrees_batchMark.map_reread,
    TypeScript.statement?]
  simp only [labelledMark, batchMark, id]
  cases after? "Error: ".toList line with
  | none => rfl
  | some rest => rfl

theorem attempts_doubting (lines : List Text) :
    (Panel.ofWatchers (doubting unmarked)).attempts lines = attempts lines :=
  Panel.attempts_of_alike (.cons (.refl _) (.cons
    (Watcher.alike_single (doubtedStatement?_eq unmarked)) (.cons (.refl _) .nil))) lines

end Doubting

end FallbackPass

end BuildLog
