import BuildLog.Proofs.Recognizer.LintEntry
import BuildLog.Proofs.Recognizer.Places
import BuildLog.Recognizer.Compilers
import BuildLog.Recognizer.Runners

/-!
# What recognizers read

A pass calls a recognizer with texts that it has cut from the lines.  Beside what the recognizer
makes of a call stands the layout that its texts have to show: where the path is, which two tokens
are the coordinates and what the message is.  A call that is accepted shows its layout, and it does
so with one path and one pair of coordinates.
-/

set_option autoImplicit false

namespace BuildLog

open Text

/-- A recognizer and the texts that it is called with. -/
inductive Call where
  | entry (format : Format) (file line : Text)
  | report (block : List Text)
  | wrapped (header message : Text)
  | parenthesized (place message : Text)
  | component (place message : Text)
  | labelled (line rest : Text)
  | batch (place message : Text)
  | syntaxError (t : Text)
  | java (header below : Text)
  | frame (message frame : Text)
  | title (path title : Text)
  | nested (message place : Text)
  | block (block : List Text)
  | compilation (block : List Text)
  | swift (candidate context : Text)

namespace Call

def format : Call → Format
  | entry format _ _ => format
  | report _ => .lintStyle
  | wrapped _ _ => .craTypescript
  | parenthesized _ _ => .viteColon
  | component _ _ => .vueTypescript
  | labelled _ _ => .genericError
  | batch _ _ => .typescriptBatch
  | syntaxError _ => .syntaxError
  | java _ _ => .java
  | frame _ _ => .jasmine
  | title _ _ => .jest
  | nested _ _ => .viteBlock
  | block _ => .esbuild
  | compilation _ => .nextJs
  | swift _ _ => .xcode

def attempt : Call → Attempt
  | entry format file line => Lint.readEntry format file line
  | report lines => Lint.readReport lines
  | wrapped header message => TypeScript.readWrapped header message
  | parenthesized place message => TypeScript.readParenthesized place message
  | component place message => TypeScript.readComponent place message
  | labelled line rest => TypeScript.readLabelled line rest
  | batch place message => TypeScript.readBatch place message
  | syntaxError t => Script.readSyntaxError t
  | java header below => Java.read header below
  | frame message line => TestRunner.readFrame message line
  | title path line => TestRunner.readTitle path line
  | nested message place => Bundler.readNested message place
  | block lines => Bundler.readBlock lines
  | compilation lines => Bundler.readCompilation lines
  | swift candidate context => Swift.read candidate context

end Call

def leadingDigits (token : Text) : Text :=
  (trimStart token).takeWhile Char.isDigit

/-- The lines above the first line with a location marker, and what the marker opens. -/
def Marked (block between : List Text) (place : Text) : Prop :=
  ∃ line front below, block = between ++ line :: below ∧
    (∀ above ∈ between, cut? ",-[".toList above = none) ∧
      cut? ",-[".toList line = some (front, place)

def untargeted (candidate : Text) : Text :=
  ((cut? " (in target ".toList candidate).map Prod.fst).getD candidate

/-- What a call says: a path, a row, a column and a message.  A number that a layout does not write
counts as zero. -/
inductive Call.Reads : Call → Text → Nat → Nat → Text → Prop
  /-- As in `row:column severity message`, below the line of the file. -/
  | entry {format : Format} {file line : Text} {entry : Lint.Entry} {v w : Nat}
      (shown : entry.Shown line) (counts : Counts entry.line entry.column v w) :
      Reads (.entry format file line) file v w entry.message
  /-- As in `row:column Error: message`, below the line of the file. -/
  | report {header path detail place row column message : Text} {below : List Text} {v w : Nat}
      (label : cut? "Error:".toList (trim detail) = some (place, message))
      (split : trim place = row ++ ':' :: column) (first : ':' ∉ row)
      (counts : Counts row column v w) :
      Reads (.report (header :: path :: detail :: below)) path v w message
  /-- As in `path(row,column)`, with the message on the next line. -/
  | wrapped {header message path : Text} {v w : Nat}
      (group : Group ',' (dropEndWhile (· = ':') (trim header)) path v w) :
      Reads (.wrapped header message) path v w (cutBefore TypeScript.isTrailingCode (trim message))
  /-- As in `path(row,column)`. -/
  | parenthesized {place message path : Text} {v w : Nat} (group : Group ',' (trim place) path v w) :
      Reads (.parenthesized place message) path v w (CodeLabel.strip message)
  /-- As in `path:row:column`, with the message on another line. -/
  | component {place message path : Text} {v w : Nat} (colons : Colons place path v w) :
      Reads (.component place message) path v w (CodeLabel.strip (trim message))
  /-- As in `label: path:row:column - message`.  Only the digits in front of row and column
  count. -/
  | labelled {line rest label place row column front tail : Text} {parts : List Text} {v w : Nat}
      (split : line.splitOn ':' = label :: place :: row :: column :: parts)
      (counts : Counts (leadingDigits row) (leadingDigits column) v w)
      (dash : cut? " - ".toList line = some (front, tail)) :
      Reads (.labelled line rest) (rest.takeWhile (· ≠ ':')) v w
        (CodeLabel.strip (((cut? " - ".toList tail).map Prod.snd).getD tail))
  /-- As in `path:row:column`. -/
  | batch {place message path : Text} {v w : Nat} (colons : Colons place path v w) :
      Reads (.batch place message) path v w (CodeLabel.strip message)
  /-- As in `path: message (row:column)`. -/
  | syntaxError {t path detail message : Text} {v w : Nat} (split : t = path ++ ':' :: detail)
      (first : ':' ∉ path) (group : Group ':' detail message v w) :
      Reads (.syntaxError t) path v w message
  /-- As in `path:row: error: message`. -/
  | java {header below place message path row : Text} {v : Nat}
      (label : cut? " error: ".toList header = some (place, message))
      (split : dropEndWhile (· = ':') (trim place) = path ++ ':' :: row) (last : ':' ∉ row)
      (counts : Numeral.read? (trim row) = some v) :
      Reads (.java header below) path v 0 (spaced (trim message) (trim below))
  /-- As in `(path:row:column)`. -/
  | frame {message line before inside rest path : Text} {v w : Nat}
      (split : line = before ++ '(' :: inside ++ ')' :: rest) (closed : ')' ∉ rest)
      (opened : '(' ∉ inside) (colons : Colons inside path v w) :
      Reads (.frame message line) path v w message
  /-- A file and a title, and no numbers. -/
  | title {path line : Text} :
      Reads (.title path line) path 0 0 ((after? ['●'] (trim line)).getD (trim line))
  /-- As in `path:row:column`, two lines below the message. -/
  | nested {message place path : Text} {v w : Nat} (colons : Colons place path v w) :
      Reads (.nested message place) path v w message
  /-- As in `path:row:column`, three lines below the header. -/
  | block {header more between place path : Text} {below : List Text} {v w : Nat}
      (colons : Colons place path v w) :
      Reads (.block (header :: more :: between :: place :: below)) path v w
        (spaced (Bundler.headerMessage header) (trim more))
  /-- As in `,-[path:row:column]`, somewhere below the fourth line. -/
  | compilation {first second third header front message place path : Text}
      {below between : List Text} {v w : Nat}
      (label : cut? "Error:".toList header = some (front, message))
      (marked : Marked below between place)
      (colons : Colons (place.takeWhile (· ≠ ']')) path v w) :
      Reads (.compilation (first :: second :: third :: header :: below)) path v w
        ((((message :: between).map Bundler.withoutBullet).find? (· ≠ [])).getD [])
  /-- As in `path:row:column: error: message`. -/
  | swift {candidate context path row column message : Text} {parts : List Text} {v w : Nat}
      (split : (untargeted candidate).splitOn ':' = path :: row :: column :: parts)
      (counts : Counts row column v w)
      (marked : Swift.message? (untargeted candidate) = some message) :
      Reads (.swift candidate context) path v w (spaced (trim message) (trim context))

namespace Call

/-! ## A call says one thing -/

theorem marked_iff {block between : List Text} {place : Text} :
    Marked block between place ↔ Bundler.cutMarker? block = some (between, place) := by
  induction block generalizing between with
  | nil =>
      constructor
      · rintro ⟨line, front, below, split, -⟩
        simp at split
      · intro found
        cases found
  | cons line block ih =>
      rw [Bundler.cutMarker?]
      constructor
      · rintro ⟨marker, front, below, split, none, here⟩
        cases between with
        | nil =>
            cases split
            rw [here]
        | cons above between =>
            cases split
            obtain ⟨absent, later⟩ := List.forall_mem_cons.1 none
            rw [absent, ih.1 ⟨marker, front, below, rfl, later, here⟩]
            rfl
      · intro found
        split at found
        · next front rest here =>
            cases found
            exact ⟨line, front, block, rfl, List.forall_mem_nil _, here⟩
        · next absent =>
            obtain ⟨⟨above, _⟩, later, same⟩ := Option.map_eq_some_iff.1 found
            cases same
            obtain ⟨marker, front, below, split, none, here⟩ := ih.2 later
            exact ⟨marker, front, below, by rw [split, List.cons_append],
              List.forall_mem_cons.2 ⟨absent, none⟩, here⟩

/-- A call has one path and one pair of coordinates, whatever it is taken to say. -/
theorem Reads.unique {call : Call} {path front : Text} {v w n m : Nat} {message other : Text}
    (reads : call.Reads path v w message) (others : call.Reads front n m other) :
    path = front ∧ v = n ∧ w = m := by
  -- both are of one layout, whose parts end at characters that they do not hold
  cases reads with
  | entry shown counts =>
      cases others with
      | entry otherShown otherCounts =>
          obtain ⟨row, column⟩ := shown.unique otherShown
          rw [row, column] at counts
          exact ⟨rfl, counts.unique otherCounts⟩
  | report label split first counts =>
      cases others with
      | report otherLabel otherSplit otherFirst otherCounts =>
          rw [otherLabel] at label
          cases label
          obtain ⟨rfl, rfl⟩ := eq_of_split_at_first split first otherSplit otherFirst
          exact ⟨rfl, counts.unique otherCounts⟩
  | wrapped group =>
      cases others with
      | wrapped otherGroup => exact group.unique otherGroup
  | parenthesized group =>
      cases others with
      | parenthesized otherGroup => exact group.unique otherGroup
  | component colons =>
      cases others with
      | component otherColons => exact colons.unique otherColons
  | labelled split counts dash =>
      cases others with
      | labelled otherSplit otherCounts otherDash =>
          rw [otherSplit] at split
          cases split
          exact ⟨rfl, counts.unique otherCounts⟩
  | batch colons =>
      cases others with
      | batch otherColons => exact colons.unique otherColons
  | syntaxError split first group =>
      cases others with
      | syntaxError otherSplit otherFirst otherGroup =>
          obtain ⟨rfl, rfl⟩ := eq_of_split_at_first split first otherSplit otherFirst
          exact ⟨rfl, (group.unique otherGroup).2⟩
  | java label split last counts =>
      cases others with
      | java otherLabel otherSplit otherLast otherCounts =>
          rw [otherLabel] at label
          cases label
          have cut := cutLast?_eq_some_iff.2 ⟨split, last⟩
          rw [cutLast?_eq_some_iff.2 ⟨otherSplit, otherLast⟩] at cut
          cases cut
          exact ⟨rfl, Option.some.inj (counts.symm.trans otherCounts), rfl⟩
  | frame split closed opened colons =>
      cases others with
      | frame otherSplit otherClosed otherOpened otherColons =>
          obtain ⟨rfl, rfl⟩ :=
            Location.eq_of_last_group split closed opened otherSplit otherClosed otherOpened
          exact colons.unique otherColons
  | title =>
      cases others with
      | title => exact ⟨rfl, rfl, rfl⟩
  | nested colons =>
      cases others with
      | nested otherColons => exact colons.unique otherColons
  | block colons =>
      cases others with
      | block otherColons => exact colons.unique otherColons
  | compilation label marked colons =>
      cases others with
      | compilation otherLabel otherMarked otherColons =>
          have found := marked_iff.1 marked
          rw [marked_iff.1 otherMarked] at found
          cases found
          exact colons.unique otherColons
  | swift split counts marked =>
      cases others with
      | swift otherSplit otherCounts otherMarked =>
          rw [otherSplit] at split
          cases split
          exact ⟨rfl, counts.unique otherCounts⟩

end Call

/-! ## What an accepted call says -/

theorem Attempt.bind_eq_ok {α : Type} {reading : Except Failure α} {next : α → Attempt}
    {diagnostic : Diagnostic} (accepted : reading >>= next = .ok diagnostic) :
    ∃ a, reading = .ok a ∧ next a = .ok diagnostic := by
  cases reading with
  | error failure => cases accepted
  | ok a => exact ⟨a, rfl, accepted⟩

theorem Diagnostic.ofOneBased_trim (format : Format) (uri : Text) (line column : Nat)
    (error : Text) :
    ofOneBased format (trim uri) line column error = ofOneBased format uri line column error := by
  rw [ofOneBased, Record.ofOneBased, Record.ofZeroBased, trim_trim]
  rfl

/-- A diagnostic is built of what a call says. -/
def Call.Says (call : Call) (diagnostic : Diagnostic) : Prop :=
  ∃ path v w message, call.Reads path v w message ∧
    Diagnostic.ofOneBased call.format path v w message = .ok diagnostic

section Accepted
variable {diagnostic : Diagnostic}

theorem Location.exists_of_atLocation {format : Format} {t error : Text}
    (accepted : (read format t >>= fun place => Diagnostic.atLocation format place error) =
      .ok diagnostic) :
    ∃ path v w, Colons t path v w ∧
      Diagnostic.ofOneBased format path v w error = .ok diagnostic := by
  obtain ⟨place, found, built⟩ := Attempt.bind_eq_ok accepted
  obtain ⟨path, colons, trimmed⟩ := read_eq_ok_iff_colons.1 found
  rw [Diagnostic.atLocation, trimmed, Diagnostic.ofOneBased_trim] at built
  exact ⟨path, place.line, place.column, colons, built⟩

/-! ### Lint reports -/

theorem Lint.says_readEntry {format : Format} {file line : Text}
    (accepted : readEntry format file line = .ok diagnostic) :
    (Call.entry format file line).Says diagnostic := by
  unfold readEntry at accepted
  split at accepted
  · cases accepted
  · next entry found =>
      obtain ⟨⟨v, w⟩, counted, built⟩ := Attempt.bind_eq_ok accepted
      exact ⟨_, _, _, _,
        .entry (Entry.shown_of_read? found) (Location.numbers_eq_ok_iff.1 counted), built⟩

theorem Lint.says_readReport {block : List Text} (accepted : readReport block = .ok diagnostic) :
    (Call.report block).Says diagnostic := by
  unfold readReport at accepted
  split at accepted
  · split at accepted
    · cases accepted
    · next place message label =>
        split at accepted
        · cases accepted
        · next row column cut =>
            obtain ⟨⟨v, w⟩, counted, built⟩ := Attempt.bind_eq_ok accepted
            obtain ⟨split, first⟩ := cut?_singleton_eq_some_iff.1 cut
            exact ⟨_, _, _, _, .report label split first (Location.numbers_eq_ok_iff.1 counted),
              built⟩
  · cases accepted

/-! ### TypeScript diagnostics -/

theorem TypeScript.says_readWrapped {header message : Text}
    (accepted : readWrapped header message = .ok diagnostic) :
    (Call.wrapped header message).Says diagnostic := by
  unfold readWrapped at accepted
  dsimp only at accepted
  split at accepted
  · cases accepted
  · next path inside found =>
      obtain ⟨⟨v, w⟩, counted, built⟩ := Attempt.bind_eq_ok accepted
      exact ⟨_, _, _, _, .wrapped (Location.group_of_coordinates found counted), built⟩

theorem TypeScript.says_readParenthesized {place message : Text}
    (accepted : readParenthesized place message = .ok diagnostic) :
    (Call.parenthesized place message).Says diagnostic := by
  unfold readParenthesized at accepted
  split at accepted
  · cases accepted
  · next path inside found =>
      obtain ⟨⟨v, w⟩, counted, built⟩ := Attempt.bind_eq_ok accepted
      exact ⟨_, _, _, _, .parenthesized (Location.group_of_coordinates found counted), built⟩

theorem TypeScript.says_readComponent {place message : Text}
    (accepted : readComponent place message = .ok diagnostic) :
    (Call.component place message).Says diagnostic := by
  obtain ⟨path, v, w, colons, built⟩ := Location.exists_of_atLocation accepted
  exact ⟨_, _, _, _, .component colons, built⟩

theorem TypeScript.says_readLabelled {line rest : Text}
    (accepted : readLabelled line rest = .ok diagnostic) :
    (Call.labelled line rest).Says diagnostic := by
  unfold readLabelled at accepted
  split at accepted
  · next split =>
      obtain ⟨v, rowCounted, accepted⟩ := Attempt.bind_eq_ok accepted
      obtain ⟨w, columnCounted, accepted⟩ := Attempt.bind_eq_ok accepted
      split at accepted
      · cases accepted
      · next front tail dash =>
          have counts := And.intro (Location.number_eq_ok_iff.1 rowCounted)
            (Location.number_eq_ok_iff.1 columnCounted)
          exact ⟨_, _, _, _, .labelled split counts dash, accepted⟩
  · cases accepted

theorem TypeScript.says_readBatch {place message : Text}
    (accepted : readBatch place message = .ok diagnostic) :
    (Call.batch place message).Says diagnostic := by
  obtain ⟨path, v, w, colons, built⟩ := Location.exists_of_atLocation accepted
  exact ⟨_, _, _, _, .batch colons, built⟩

/-! ### Scripts and the Java compiler -/

theorem Script.says_readSyntaxError {t : Text} (accepted : readSyntaxError t = .ok diagnostic) :
    (Call.syntaxError t).Says diagnostic := by
  unfold readSyntaxError at accepted
  split at accepted
  · cases accepted
  · next path detail cut =>
      obtain ⟨split, first⟩ := cut?_singleton_eq_some_iff.1 cut
      split at accepted
      · cases accepted
      · next message inside found =>
          obtain ⟨⟨v, w⟩, counted, built⟩ := Attempt.bind_eq_ok accepted
          exact ⟨_, _, _, _,
            .syntaxError split first (Location.group_of_coordinates found counted), built⟩

theorem Java.says_read {header below : Text} (accepted : read header below = .ok diagnostic) :
    (Call.java header below).Says diagnostic := by
  unfold read at accepted
  split at accepted
  · cases accepted
  · next place message label =>
      split at accepted
      · cases accepted
      · next path row cut =>
          obtain ⟨split, last⟩ := cutLast?_eq_some_iff.1 cut
          obtain ⟨v, counted, built⟩ := Attempt.bind_eq_ok accepted
          -- a column that is not written counts as zero, and one less of it is zero again
          exact ⟨_, _, _, _, .java label split last (Location.number_eq_ok_iff.1 counted), built⟩

/-! ### Test runners -/

theorem TestRunner.says_readFrame {message line : Text}
    (accepted : readFrame message line = .ok diagnostic) :
    (Call.frame message line).Says diagnostic := by
  unfold readFrame at accepted
  split at accepted
  · cases accepted
  · split at accepted
    · cases accepted
    · next before inside found =>
        obtain ⟨rest, split, closed, opened⟩ := Location.lastGroup?_eq_some_iff.1 found
        obtain ⟨path, v, w, colons, built⟩ := Location.exists_of_atLocation accepted
        exact ⟨_, _, _, _, .frame split closed opened colons, built⟩

theorem TestRunner.says_readTitle {path line : Text}
    (accepted : readTitle path line = .ok diagnostic) : (Call.title path line).Says diagnostic :=
  ⟨_, _, _, _, .title, accepted⟩

/-! ### Bundler blocks -/

theorem Bundler.says_readNested {message place : Text}
    (accepted : readNested message place = .ok diagnostic) :
    (Call.nested message place).Says diagnostic := by
  obtain ⟨path, v, w, colons, built⟩ := Location.exists_of_atLocation accepted
  exact ⟨_, _, _, _, .nested colons, built⟩

theorem Bundler.says_readBlock {block : List Text} (accepted : readBlock block = .ok diagnostic) :
    (Call.block block).Says diagnostic := by
  unfold readBlock at accepted
  split at accepted
  · obtain ⟨path, v, w, colons, built⟩ := Location.exists_of_atLocation accepted
    exact ⟨_, _, _, _, .block colons, built⟩
  · cases accepted

theorem Bundler.says_readCompilation {block : List Text}
    (accepted : readCompilation block = .ok diagnostic) :
    (Call.compilation block).Says diagnostic := by
  unfold readCompilation at accepted
  split at accepted
  · split at accepted
    · cases accepted
    · next front message label =>
        split at accepted
        · cases accepted
        · next between place found =>
            obtain ⟨path, v, w, colons, built⟩ := Location.exists_of_atLocation accepted
            exact ⟨_, _, _, _, .compilation label (Call.marked_iff.2 found) colons, built⟩
  · cases accepted

/-! ### The Swift compiler -/

theorem Swift.says_read {candidate context : Text}
    (accepted : read candidate context = .ok diagnostic) :
    (Call.swift candidate context).Says diagnostic := by
  unfold read at accepted
  dsimp only at accepted
  split at accepted
  · next split =>
      obtain ⟨⟨v, w⟩, counted, accepted⟩ := Attempt.bind_eq_ok accepted
      split at accepted
      · cases accepted
      · next message marked =>
          exact ⟨_, _, _, _, .swift split (Location.numbers_eq_ok_iff.1 counted) marked, accepted⟩
  · cases accepted
  · cases accepted

/-- Whatever a recognizer accepts is built of what its call says. -/
theorem Call.says_of_accepted {call : Call} (accepted : call.attempt = .ok diagnostic) :
    call.Says diagnostic := by
  cases call with
  | entry format file line => exact Lint.says_readEntry accepted
  | report lines => exact Lint.says_readReport accepted
  | wrapped header message => exact TypeScript.says_readWrapped accepted
  | parenthesized place message => exact TypeScript.says_readParenthesized accepted
  | component place message => exact TypeScript.says_readComponent accepted
  | labelled line rest => exact TypeScript.says_readLabelled accepted
  | batch place message => exact TypeScript.says_readBatch accepted
  | syntaxError t => exact Script.says_readSyntaxError accepted
  | java header below => exact Java.says_read accepted
  | frame message line => exact TestRunner.says_readFrame accepted
  | title path line => exact TestRunner.says_readTitle accepted
  | nested message place => exact Bundler.says_readNested accepted
  | block lines => exact Bundler.says_readBlock accepted
  | compilation lines => exact Bundler.says_readCompilation accepted
  | swift candidate context => exact Swift.says_read accepted

end Accepted

end BuildLog
