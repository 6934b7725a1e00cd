import BuildLog.Pass.Layouts
import BuildLog.Proofs.Bytewise.Offset
import BuildLog.Proofs.Recognizer.CodeLabels
import BuildLog.Recognizer.Compilers

/-!
# Recognizers on offsets

The recognizers once more, as they cut texts in memory: a mark is looked up, the length of the mark
is added to its offset, and the text is sliced there.  A reading that fails ends a recognizer
without a fault.  On a text whose size is a machine word every slice is in order, and what comes out
is what the recognizers say that cut without offsets.
-/

set_option autoImplicit false

namespace BuildLog.Bytewise

open Text

def andThen {α : Type} (reading : Except Failure α) (next : α → Checked Attempt) :
    Checked Attempt :=
  match reading with
  | .ok a => next a
  | .error failure => .ok (.error failure)

theorem andThen_eq_ok {α : Type} {reading : Except Failure α} {next : α → Checked Attempt}
    {following : α → Attempt} (faultless : ∀ a, next a = .ok (following a)) :
    andThen reading next = .ok (reading >>= following) := by
  cases reading with
  | error failure => rfl
  | ok a => exact faultless a

/-! ## Numerals, groups and labels -/

def leadingNumber (format : Format) (field token : Text) : Checked (Except Failure Nat) := do
  let token := trimStart token
  let digits ← sliceTo token ((findOther? Char.isDigit token).getD (size token))
  return Location.number format field digits

theorem leadingNumber_eq_ok (format : Format) (field token : Text) :
    leadingNumber format field token = .ok (Location.leadingNumber format field token) := by
  have split := List.takeWhile_append_dropWhile (p := Char.isDigit) (l := trimStart token)
  have digits : sliceTo (trimStart token) (size ((trimStart token).takeWhile Char.isDigit)) =
      .ok ((trimStart token).takeWhile Char.isDigit) := sliceTo_eq_ok_iff.2 ⟨_, split.symm, rfl⟩
  rw [leadingNumber, findOther?_getD, digits]
  rfl

def lastGroup? (t : Text) : Checked (Option (Nat × Text)) :=
  match findLast? ')' t with
  | none => return none
  | some close => do
    let front ← sliceTo t close
    match findLast? '(' front with
    | none => return none
    | some opening =>
      let start ← add opening 1
      let inside ← slice t start close
      return some (opening, inside)

theorem lastGroup?_eq_ok {t : Text} (small : size t < Numeral.limit) :
    lastGroup? t = .ok ((Location.lastGroup? t).map fun group => (size group.1, group.2)) := by
  unfold lastGroup? Location.lastGroup?
  rw [findLast?_eq]
  cases closed : cutLast? ')' t with
  | none => rfl
  | some sides =>
      obtain ⟨front, back⟩ := sides
      obtain ⟨rfl, -⟩ := cutLast?_eq_some_iff.1 closed
      simp only [Option.map_some, sliceTo_size, ok_bind, findLast?_eq]
      cases opened : cutLast? '(' front with
      | none => rfl
      | some inner =>
          obtain ⟨before, inside⟩ := inner
          obtain ⟨rfl, -⟩ := cutLast?_eq_some_iff.1 opened
          have bracket : '('.utf8Size = 1 := by decide
          have start : add (size before) 1 = .ok (size before + 1) := by
            apply add_eq_ok
            simp only [size_append, size_cons, bracket] at small
            omega
          have behind : sliceFrom (before ++ '(' :: inside) (size before + 1) = .ok inside :=
            sliceFrom_eq_ok_iff.2 ⟨before ++ ['('], by simp, by simp [bracket]⟩
          simp only [Option.map_some, start, ok_bind, slice, sliceTo_size, behind]
          rfl

theorem sliceTo_lastGroup? {t before inside : Text}
    (found : Location.lastGroup? t = some (before, inside)) :
    sliceTo t (size before) = .ok before := by
  unfold Location.lastGroup? at found
  split at found
  · cases found
  · next front back closed =>
      obtain ⟨rfl, -⟩ := cutLast?_eq_some_iff.1 closed
      obtain ⟨rfl, -⟩ := cutLast?_eq_some_iff.1 found
      exact sliceTo_eq_ok_iff.2 ⟨_, List.append_assoc _ _ _, rfl⟩

def readGroup (format : Format) (reason : Text) (separator : Char) (t : Text)
    (record : Text → Nat → Nat → Checked Attempt) : Checked Attempt := do
  match ← lastGroup? t with
  | none => return .error (.unrecognized format reason)
  | some (opening, inside) =>
    andThen (Location.coordinates format separator inside) fun (line, column) => do
      let front ← sliceTo t opening
      record front line column

theorem readGroup_eq_ok (format : Format) (reason : Text) (separator : Char) {t : Text}
    (small : size t < Numeral.limit) {record : Text → Nat → Nat → Checked Attempt}
    (attempt : Text → Nat → Nat → Attempt)
    (faultless : ∀ front line column, record front line column = .ok (attempt front line column)) :
    readGroup format reason separator t record =
      .ok (match Location.lastGroup? t with
        | none => .error (.unrecognized format reason)
        | some (front, inside) => do
          let (line, column) ← Location.coordinates format separator inside
          attempt front line column) := by
  unfold readGroup
  rw [lastGroup?_eq_ok small]
  cases found : Location.lastGroup? t with
  | none => rfl
  | some group =>
      obtain ⟨front, inside⟩ := group
      apply andThen_eq_ok
      rintro ⟨line, column⟩
      dsimp only
      rw [sliceTo_lastGroup? found, ok_bind, faultless]

def labelEnd? (message : Text) : Option Nat :=
  (CodeLabel.afterLabel? message).map fun rest => size message - size (trimStart rest)

def withoutLabel (message : Text) : Checked Text :=
  match labelEnd? (trim message) with
  | some stop => sliceFrom (trim message) stop
  | none => return trim message

theorem withoutLabel_eq_ok (message : Text) :
    withoutLabel message = .ok (CodeLabel.strip message) := by
  unfold withoutLabel labelEnd? CodeLabel.strip
  cases label : CodeLabel.afterLabel? (trim message) with
  | none => rfl
  | some rest =>
      obtain ⟨front, split⟩ :=
        (trimStart_suffix rest).trans (CodeLabel.suffix_of_afterLabel? label)
      apply sliceFrom_eq_ok_iff.2
      refine ⟨front, split.symm, ?_⟩
      have whole : size (trim message) = size front + size (trimStart rest) := by
        rw [← split, size_append]
      dsimp only
      omega

/-! ## TypeScript diagnostics -/

def readWrapped (header message : Text) : Checked Attempt :=
  readGroup .craTypescript "no (line,col)".toList ',' (dropEndWhile (· = ':') (trim header))
    fun path line column =>
      return Diagnostic.ofOneBased .craTypescript path line column
        (cutBefore TypeScript.isTrailingCode (trim message))

theorem readWrapped_eq_ok {header : Text} (small : size header < Numeral.limit) (message : Text) :
    readWrapped header message = .ok (TypeScript.readWrapped header message) := by
  have place : dropEndWhile (· = ':') (trim header) <:+: header :=
    (dropEndWhile_isPrefix _ _).isInfix.trans (trim_isInfix header)
  exact readGroup_eq_ok _ _ _ (size_lt_of_isInfix place small) _ fun _ _ _ => rfl

def readParenthesized (place message : Text) : Checked Attempt :=
  readGroup .viteColon "no (line,col) before error".toList ',' (trim place)
    fun path line column => do
      let message ← withoutLabel message
      return Diagnostic.ofOneBased .viteColon path line column message

theorem readParenthesized_eq_ok {place : Text} (small : size place < Numeral.limit)
    (message : Text) :
    readParenthesized place message = .ok (TypeScript.readParenthesized place message) := by
  have inside := size_lt_of_isInfix (trim_isInfix place) small
  refine readGroup_eq_ok _ _ _ inside
    (fun path line column =>
      Diagnostic.ofOneBased .viteColon path line column (CodeLabel.strip message))
    fun path line column => ?_
  rw [withoutLabel_eq_ok]
  rfl

def parenthesized? (line : Text) : Checked (Option Attempt) :=
  match cut? ": error ".toList line with
  | none => return none
  | some (place, message) => some <$> readParenthesized place message

theorem parenthesized?_eq_ok {line : Text} (small : size line < Numeral.limit) :
    parenthesized? line = .ok (TypeScript.parenthesized? line) := by
  unfold parenthesized? TypeScript.parenthesized?
  cases cut : cut? ": error ".toList line with
  | none => rfl
  | some sides =>
      obtain ⟨place, message⟩ := sides
      have inside := (sides_of_cut? cut).1.isInfix
      dsimp only
      rw [readParenthesized_eq_ok (size_lt_of_isInfix inside small)]
      rfl

def componentMark : Text := "error  in ".toList

def componentHeader? (line : Text) : Option Text :=
  if occursIn componentMark (lowered line) then some line else none

/-- Looks the mark up in the copy in lower case and cuts the header itself. -/
def readComponent (header message : Text) : Checked Attempt :=
  match find? componentMark (lowered header) with
  | none => return .error (.noMatch .vueTypescript)
  | some place => do
    let start ← add place (size componentMark)
    let rest ← sliceFrom header start
    andThen (Location.read .vueTypescript rest) fun location => do
      let message ← withoutLabel (trim message)
      return Diagnostic.atLocation .vueTypescript location message

theorem readComponent_eq_ok {header place : Text} (small : size header < Numeral.limit)
    (opens : TypeScript.componentHeader? header = some place) (message : Text) :
    readComponent header message = .ok (TypeScript.readComponent place message) := by
  obtain ⟨⟨front, rest⟩, found, rfl⟩ := Option.map_eq_some_iff.1 opens
  obtain ⟨offset, start, here, sum, behind⟩ := sliceFrom_of_cutLowered? small found
  unfold readComponent TypeScript.readComponent componentMark
  rw [here]
  dsimp only
  rw [sum, ok_bind, behind, ok_bind]
  apply andThen_eq_ok
  intro location
  rw [withoutLabel_eq_ok]
  rfl

def readLabelled (line : Text) : Checked Attempt :=
  match after? "Error: ".toList line with
  | none => return .error (.noMatch .genericError)
  | some rest =>
    let parts := line.splitOn ':'
    if parts.length < 4 then
      return .error (.unrecognized .genericError "expected path:line:col".toList)
    else do
      let row ← element parts 2
      andThen (← leadingNumber .genericError "line".toList row) fun row => do
        let column ← element parts 3
        andThen (← leadingNumber .genericError "column".toList column) fun column =>
          match cut? " - ".toList line with
          | none => return .error (.unrecognized .genericError "no \" - \" before message".toList)
          | some (_, tail) => do
            let path := rest.takeWhile (· ≠ ':')
            let message ← withoutLabel (((cut? " - ".toList tail).map Prod.snd).getD tail)
            return Diagnostic.ofOneBased .genericError path row column message

theorem readLabelled_eq_ok {line rest : Text}
    (labelled : after? "Error: ".toList line = some rest) :
    readLabelled line = .ok (TypeScript.readLabelled line rest) := by
  unfold readLabelled TypeScript.readLabelled
  rw [labelled]
  dsimp only
  generalize line.splitOn ':' = parts
  rcases parts with _ | ⟨_, _ | ⟨_, _ | ⟨row, _ | ⟨column, more⟩⟩⟩⟩
  case cons.cons.cons.cons first second =>
    have many : ¬ (first :: second :: row :: column :: more).length < 4 := by simp
    rw [if_neg many, element_eq_ok rfl, ok_bind, leadingNumber_eq_ok, ok_bind]
    apply andThen_eq_ok
    intro row
    rw [element_eq_ok rfl, ok_bind, leadingNumber_eq_ok, ok_bind]
    apply andThen_eq_ok
    intro column
    cases cut? " - ".toList line with
    | none => rfl
    | some sides =>
        dsimp only
        rw [withoutLabel_eq_ok]
        rfl
  all_goals rfl

def readBatch (line : Text) : Checked Attempt :=
  match find? "- error TS".toList line with
  | none => return .error (.noMatch .typescriptBatch)
  | some dash => do
    let place ← sliceTo line dash
    andThen (Location.read .typescriptBatch place) fun place => do
      let start ← add dash 2
      let message ← sliceFrom line start
      let message ← withoutLabel message
      return Diagnostic.atLocation .typescriptBatch place message

theorem readBatch_eq_ok {line place message : Text} (small : size line < Numeral.limit)
    (found : cut? "- error TS".toList line = some (place, message)) :
    readBatch line = .ok (TypeScript.readBatch place ("error TS".toList ++ message)) := by
  obtain ⟨here, front⟩ := sliceTo_of_cut? found
  have split : line = (place ++ "- ".toList) ++ ("error TS".toList ++ message) := by
    rw [eq_of_cut? found]
    simp
  have dash : size "- ".toList = 2 := by decide
  have start : add (size place) 2 = .ok (size place + 2) := by
    apply add_eq_ok
    rw [split, size_append, size_append, dash] at small
    omega
  have behind : sliceFrom line (size place + 2) = .ok ("error TS".toList ++ message) :=
    sliceFrom_eq_ok_iff.2 ⟨_, split, by rw [size_append, dash]⟩
  unfold readBatch
  rw [here]
  simp only [front, ok_bind]
  apply andThen_eq_ok
  intro location
  simp only [start, behind, withoutLabel_eq_ok, ok_bind]
  rfl

def statement? (line : Text) : Checked (Option Attempt) :=
  if startsWith "Error: ".toList line then some <$> readLabelled line
  else if occursIn "- error TS".toList line then some <$> readBatch line
  else return none

theorem statement?_eq_ok {line : Text} (small : size line < Numeral.limit) :
    statement? line = .ok (TypeScript.statement? line) := by
  unfold statement? TypeScript.statement? startsWith occursIn
  cases labelled : after? "Error: ".toList line with
  | some rest =>
      rw [readLabelled_eq_ok labelled]
      rfl
  | none =>
      cases found : cut? "- error TS".toList line with
      | none => rfl
      | some sides =>
          rw [readBatch_eq_ok small found]
          rfl

/-! ## Scripts and test runners -/

def readSyntaxError (t : Text) : Checked Attempt :=
  match cut? [':'] t with
  | none => return .error (.unrecognized .syntaxError "no path before message".toList)
  | some (path, detail) =>
    readGroup .syntaxError "no (line:col)".toList ':' detail fun message line column =>
      return Diagnostic.ofOneBased .syntaxError path line column message

theorem readSyntaxError_eq_ok {t : Text} (small : size t < Numeral.limit) :
    readSyntaxError t = .ok (Script.readSyntaxError t) := by
  unfold readSyntaxError Script.readSyntaxError
  cases cut : cut? [':'] t with
  | none => rfl
  | some sides =>
      have detail : size sides.2 < Numeral.limit :=
        size_lt_of_isInfix (sides_of_cut? cut).2.isInfix small
      exact readGroup_eq_ok _ _ _ detail _ fun _ _ _ => rfl

def syntaxError? (line : Text) : Checked (Option Attempt) :=
  match after? "SyntaxError:".toList (trim line) with
  | none => return none
  | some rest => some <$> readSyntaxError rest

theorem syntaxError?_eq_ok {line : Text} (small : size line < Numeral.limit) :
    syntaxError? line = .ok (Script.syntaxError? line) := by
  unfold syntaxError? Script.syntaxError?
  cases labelled : after? "SyntaxError:".toList (trim line) with
  | none => rfl
  | some rest =>
      have inside := (suffix_of_after? labelled).isInfix.trans (trim_isInfix line)
      dsimp only
      rw [readSyntaxError_eq_ok (size_lt_of_isInfix inside small)]
      rfl

def errorMessage? (settings : Settings) (folder line : Text) : Checked (Option Text) :=
  if Folder.names folder line then return none
  else
    match cut? "Error:".toList line with
    | none => return none
    | some (_, message) => do
      let message ← withoutLabel message
      return some (TestRunner.shorten settings message)

theorem errorMessage?_eq_ok (settings : Settings) (folder line : Text) :
    errorMessage? settings folder line = .ok (TestRunner.errorMessage? settings folder line) := by
  unfold errorMessage? TestRunner.errorMessage?
  split
  · rfl
  · cases cut? "Error:".toList line with
    | none => rfl
    | some sides =>
        dsimp only
        rw [withoutLabel_eq_ok]
        rfl

def readFrame (message frame : Text) : Checked Attempt :=
  if occursIn "<Jasmine>".toList frame then
    return .error (.unrecognized .jasmine "frame is inside jasmine itself".toList)
  else do
    match ← lastGroup? frame with
    | none => return .error (.unrecognized .jasmine "no (path:line:col)".toList)
    | some (_, inside) =>
      andThen (Location.read .jasmine inside) fun place =>
        return Diagnostic.atLocation .jasmine place message

theorem readFrame_eq_ok (message : Text) {frame : Text} (small : size frame < Numeral.limit) :
    readFrame message frame = .ok (TestRunner.readFrame message frame) := by
  unfold readFrame TestRunner.readFrame
  split
  · rfl
  · rw [lastGroup?_eq_ok small]
    cases Location.lastGroup? frame with
    | none => rfl
    | some group =>
        apply andThen_eq_ok
        intro place
        rfl

def suite? (line : Text) : Checked (Option Text) :=
  if startsWith "FAIL ".toList line then do
    let suite ← sliceFrom line (size "FAIL ".toList)
    return some (cutBefore TestRunner.isTiming (trim suite))
  else return none

theorem suite?_eq_ok (line : Text) : suite? line = .ok (TestRunner.suite? line) := by
  unfold suite? TestRunner.suite? startsWith
  cases failed : after? "FAIL ".toList line with
  | none => rfl
  | some suite =>
      obtain rfl := after?_eq_some_iff.1 failed
      rw [sliceFrom_size]
      rfl

/-! ## Bundler blocks -/

def headerMessage (header : Text) : Checked Text :=
  let t := trim header
  withoutLabel (cutBefore Bundler.isPluginTag ((after? Bundler.errorMark t).getD t))

theorem headerMessage_eq_ok (header : Text) :
    headerMessage header = .ok (Bundler.headerMessage header) :=
  withoutLabel_eq_ok _

def nestedHeader? (line : Text) : Checked (Option Text) :=
  if startsWith (Bundler.errorMark ++ [' ']) line then some <$> headerMessage line
  else return none

theorem nestedHeader?_eq_ok (line : Text) :
    nestedHeader? line = .ok (Bundler.nestedHeader? line) := by
  unfold nestedHeader? Bundler.nestedHeader? startsWith
  rw [headerMessage_eq_ok]
  cases after? (Bundler.errorMark ++ [' ']) line with
  | none => rfl
  | some rest => rfl

def readBlock : List Text → Checked Attempt
  | header :: more :: _ :: place :: _ =>
    andThen (Location.read .esbuild place) fun place => do
      let message ← headerMessage header
      return Diagnostic.atLocation .esbuild place (spaced message (trim more))
  | _ => return .error (.unrecognized .esbuild "input too short".toList)

theorem readBlock_eq_ok (lines : List Text) : readBlock lines = .ok (Bundler.readBlock lines) := by
  unfold readBlock
  split
  · apply andThen_eq_ok
    intro place
    rw [headerMessage_eq_ok]
    rfl
  · next short =>
      rw [Bundler.readBlock]
      · rfl
      · exact short

def findMarkerFrom (index : Nat) : List Text → Checked (Option (Nat × Text))
  | [] => return none
  | line :: lines =>
    match cut? ",-[".toList line with
    | some (_, place) => return some (index, place)
    | none => do
      let next ← add index 1
      findMarkerFrom next lines

/-- The first four lines cannot hold the marker, but they are counted. -/
def findMarker (lines : List Text) : Checked (Option (Nat × Text)) :=
  findMarkerFrom 4 (lines.drop 4)

theorem findMarkerFrom_eq_ok {index : Nat} {lines : List Text}
    (small : index + lines.length < Numeral.limit) :
    findMarkerFrom index lines =
      .ok ((Bundler.cutMarker? lines).map fun found => (index + found.1.length, found.2)) := by
  induction lines generalizing index with
  | nil => rfl
  | cons line lines ih =>
      rw [List.length_cons] at small
      unfold findMarkerFrom Bundler.cutMarker?
      cases cut? ",-[".toList line with
      | some sides => rfl
      | none =>
          dsimp only
          rw [add_eq_ok (by omega), ok_bind, ih (by omega)]
          cases Bundler.cutMarker? lines with
          | none => rfl
          | some found =>
              simp only [Option.map_some, List.length_cons]
              rw [Nat.add_assoc, Nat.add_comm 1]

theorem append_of_cutMarker? {lines between : List Text} {place : Text}
    (found : Bundler.cutMarker? lines = some (between, place)) :
    ∃ holder below, lines = between ++ holder :: below := by
  induction lines generalizing between with
  | nil => cases found
  | cons line lines ih =>
      unfold Bundler.cutMarker? at found
      split at found
      · cases found
        exact ⟨line, lines, rfl⟩
      · obtain ⟨⟨above, place⟩, later, same⟩ := Option.map_eq_some_iff.1 found
        cases same
        obtain ⟨holder, below, split⟩ := ih later
        exact ⟨holder, below, by rw [split, List.cons_append]⟩

theorem findMarker_eq_ok {lines : List Text} (small : lines.length < Numeral.limit) :
    findMarker lines = .ok ((Bundler.cutMarker? (lines.drop 4)).map fun found =>
      (4 + found.1.length, found.2)) := by
  by_cases short : lines.length ≤ 4
  · rw [findMarker, List.drop_of_length_le short]
    rfl
  · apply findMarkerFrom_eq_ok
    rw [List.length_drop]
    omega

/-- The marker stands in a line below the fourth, so the lines between the two can be taken. -/
theorem elements_above_marker {lines between : List Text} {place : Text}
    (found : Bundler.cutMarker? (lines.drop 4) = some (between, place)) :
    elements lines 4 (4 + between.length) = .ok between := by
  obtain ⟨holder, below, split⟩ := append_of_cutMarker? found
  have room := congrArg List.length split
  rw [List.length_drop, List.length_append, List.length_cons] at room
  rw [elements_eq_ok (by omega) (by omega), List.drop_take, Nat.add_sub_cancel_left, split,
    List.take_left]

def readCompilation (lines : List Text) : Checked Attempt :=
  match lines[3]? with
  | none => return .error (.unrecognized .nextJs "input too short".toList)
  | some header =>
    match cut? "Error:".toList header with
    | none => return .error (.unrecognized .nextJs "line 3 has no Error: label".toList)
    | some (_, message) => do
      match ← findMarker lines with
      | none => return .error (.unrecognized .nextJs "no ,-[ location marker".toList)
      | some (marker, place) =>
        andThen (Location.read .nextJs (place.takeWhile (· ≠ ']'))) fun place => do
          if Bundler.withoutBullet message = [] then
            let between ← elements lines 4 marker
            let messages := between.map Bundler.withoutBullet
            return Diagnostic.atLocation .nextJs place ((messages.find? (· ≠ [])).getD [])
          else return Diagnostic.atLocation .nextJs place (Bundler.withoutBullet message)

theorem readCompilation_eq_ok {lines : List Text} (small : lines.length < Numeral.limit) :
    readCompilation lines = .ok (Bundler.readCompilation lines) := by
  unfold readCompilation
  rw [findMarker_eq_ok small]
  rcases lines with _ | ⟨_, _ | ⟨_, _ | ⟨_, _ | ⟨header, below⟩⟩⟩⟩
  case cons.cons.cons.cons first second third =>
    unfold Bundler.readCompilation
    simp only [List.getElem?_cons_succ, List.getElem?_cons_zero, List.drop_succ_cons,
      List.drop_zero]
    cases cut? "Error:".toList header with
    | none => rfl
    | some sides =>
        obtain ⟨label, message⟩ := sides
        cases found : Bundler.cutMarker? below with
        | none => rfl
        | some marked =>
            obtain ⟨between, place⟩ := marked
            have above : elements (first :: second :: third :: header :: below) 4
                (4 + between.length) = .ok between := elements_above_marker found
            simp only [Option.map_some, ok_bind]
            apply andThen_eq_ok
            intro location
            -- the lines above the marker are sliced only when the label stands alone
            by_cases alone : Bundler.withoutBullet message = []
            · rw [if_pos alone, above, ok_bind, List.map_cons, alone]
              rfl
            · rw [if_neg alone, List.map_cons, List.find?_cons_of_pos (by simpa using alone)]
              rfl
  all_goals rfl

/-! ## Swift compiler diagnostics -/

def withoutTarget (candidate : Text) : Checked Text :=
  match find? " (in target ".toList candidate with
  | some stop => sliceTo candidate stop
  | none => return candidate

theorem withoutTarget_eq_ok (candidate : Text) :
    withoutTarget candidate =
      .ok (((cut? " (in target ".toList candidate).map Prod.fst).getD candidate) := by
  unfold withoutTarget
  cases found : cut? " (in target ".toList candidate with
  | none =>
      rw [find?_eq, found]
      rfl
  | some sides =>
      obtain ⟨here, front⟩ := sliceTo_of_cut? found
      rw [here]
      exact front

/-! The two marks of a message differ in their last character, which takes one byte in both. -/

def closedMark : Text := ": error:".toList

def openMark : Text := ": error ".toList

theorem size_openMark : size openMark = size closedMark := by
  decide

/-- Whichever of the two marks is found, the length of the first one is added to its offset. -/
def swiftMessage? (candidate : Text) : Checked (Option Text) :=
  let copy := lowered candidate
  match (find? closedMark copy).or (find? openMark copy) with
  | none => return none
  | some mark => do
    let start ← add mark (size closedMark)
    some <$> sliceFrom candidate start

theorem swiftMessage?_eq_ok {candidate : Text} (small : size candidate < Numeral.limit) :
    swiftMessage? candidate = .ok (Swift.message? candidate) := by
  unfold swiftMessage? Swift.message?
  dsimp only
  cases closed : cutLowered? closedMark candidate with
  | some sides =>
      obtain ⟨offset, start, here, sum, behind⟩ := sliceFrom_of_cutLowered? small closed
      unfold closedMark at closed
      rw [here, closed, Option.some_or]
      dsimp only
      rw [sum, ok_bind, behind]
      rfl
  | none =>
      rw [find?_lowered_eq_none closed, Option.none_or]
      unfold closedMark at closed
      rw [closed, Option.none_or]
      cases opened : cutLowered? openMark candidate with
      | some sides =>
          obtain ⟨offset, start, here, sum, behind⟩ := sliceFrom_of_cutLowered? small opened
          rw [size_openMark] at sum
          unfold openMark at opened
          rw [here, opened]
          dsimp only
          rw [sum, ok_bind, behind]
          rfl
      | none =>
          rw [find?_lowered_eq_none opened]
          unfold openMark at opened
          rw [opened]
          rfl

def readSwift (candidate context : Text) : Checked Attempt := do
  let candidate ← withoutTarget candidate
  match candidate.splitOn ':' with
  | path :: line :: column :: _ =>
    andThen (Location.numbers .xcode line column) fun (line, column) => do
      match ← swiftMessage? candidate with
      | none => return .error (.unrecognized .xcode "no error marker".toList)
      | some message =>
        return Diagnostic.ofOneBased .xcode path line column (spaced (trim message) (trim context))
  | [_, _] => return .error (.unrecognized .xcode "missing column number".toList)
  | _ => return .error (.unrecognized .xcode "missing line number".toList)

theorem readSwift_eq_ok {candidate : Text} (small : size candidate < Numeral.limit)
    (context : Text) : readSwift candidate context = .ok (Swift.read candidate context) := by
  unfold readSwift Swift.read
  rw [withoutTarget_eq_ok, ok_bind]
  dsimp only
  have inside :
      ((cut? " (in target ".toList candidate).map Prod.fst).getD candidate <:+: candidate := by
    cases found : cut? " (in target ".toList candidate with
    | none => exact List.infix_refl candidate
    | some sides => exact (sides_of_cut? found).1.isInfix
  rw [swiftMessage?_eq_ok (size_lt_of_isInfix inside small)]
  generalize ((cut? " (in target ".toList candidate).map Prod.fst).getD candidate = kept
  generalize kept.splitOn ':' = parts
  rcases parts with _ | ⟨path, _ | ⟨line, _ | ⟨column, more⟩⟩⟩
  case cons.cons.cons =>
    apply andThen_eq_ok
    rintro ⟨line, column⟩
    rw [ok_bind]
    cases Swift.message? kept with
    | none => rfl
    | some message => rfl
  all_goals rfl

end BuildLog.Bytewise
