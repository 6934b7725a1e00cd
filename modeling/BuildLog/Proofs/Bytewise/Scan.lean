import BuildLog.Pass.Swift
import BuildLog.Proofs.Bytewise.Recognizer
import BuildLog.Proofs.Pass.FallbackLayouts
import BuildLog.Proofs.Pass.SwiftWindows

/-!
# Scans with counters

The three passes that go through a log line by line, as they run in memory: each keeps what is
pending in slots of its own, counts the lines, and reads with the recognizers on offsets.  What a
scan remembers is at every line what the watchers remember, so no step of it is a fault, and its
attempts are those of the pass.
-/

set_option autoImplicit false

namespace BuildLog.Bytewise

open Text

/-! ## Runs -/

section Runs
variable {Memory State Answer : Type}

def scan (step : Memory → Text → Checked (List Answer × Memory))
    (finish : Memory → List Answer) (memory : Memory) : List Text → Checked (List Answer)
  | [] => return finish memory
  | line :: lines => do
    let answer ← step memory line
    let later ← scan step finish answer.2 lines
    return answer.1 ++ later

/-- A scan gives the answers of a run when what it remembers follows the states of the run.  How it
follows them may depend on how many lines are left. -/
theorem scan_eq_ok {step : Memory → Text → Checked (List Answer × Memory)}
    {finish : Memory → List Answer} (run : State → List Text → List Answer)
    (follows : Nat → Memory → State → Prop)
    (ends : ∀ memory state, follows 0 memory state → finish memory = run state [])
    (goes : ∀ left memory state line, follows (left + 1) memory state →
      size line < Numeral.limit →
      ∃ answer next, step memory line = .ok answer ∧ follows left answer.2 next ∧
        ∀ lines, run state (line :: lines) = answer.1 ++ run next lines)
    {lines : List Text} (small : ∀ line ∈ lines, size line < Numeral.limit)
    {memory : Memory} {state : State} (starts : follows lines.length memory state) :
    scan step finish memory lines = .ok (run state lines) := by
  -- on the lines; `follows` is the invariant
  induction lines generalizing memory state with
  | nil => exact congrArg Except.ok (ends memory state starts)
  | cons line lines ih =>
      obtain ⟨answer, next, stepped, followed, answered⟩ :=
        goes _ memory state line starts (small line List.mem_cons_self)
      have later := ih (fun line inside => small line (List.mem_cons_of_mem _ inside)) followed
      rw [scan, stepped, ok_bind, later, answered]
      rfl

end Runs

def continued (pending : Option Text) (reads : Text → Checked Attempt) : Checked (List Attempt) :=
  match pending with
  | none => return []
  | some header => List.singleton <$> reads header

theorem continued_eq_ok (pending : Option Text) {reads : Text → Checked Attempt}
    {attempt : Text → Attempt}
    (faultless : ∀ header ∈ pending, reads header = .ok (attempt header)) :
    continued pending reads = .ok (pending.map attempt).toList := by
  cases pending with
  | none => rfl
  | some header =>
      rw [continued, faultless header rfl]
      rfl

/-! ## The line scan -/

structure LineMemory where
  lintFile : Option Text := none
  wrapped : Option Text := none
  component : Option Text := none
  java : Option Text := none
  message : Option Text := none
  componentFile : Option Text := none

def scanComponent (pending : Option Text) (line : Text) :
    Checked (List Attempt × Option Text) :=
  if isBlankLine line then return ([], (componentHeader? line).or pending)
  else do
    let attempts ← continued pending (readComponent · line)
    return (attempts, componentHeader? line)

def scanLine (settings : Settings) (folder : Text) (memory : LineMemory) (line : Text) :
    Checked (List Attempt × LineMemory) := do
  let scripts := LinePass.lintWatcher .eslint [".ts".toList, ".tsx".toList]
  let lint := scripts.react memory.lintFile line
  let wrapped ← continued memory.wrapped (readWrapped · line)
  let parenthesized ← parenthesized? line
  let component ← scanComponent memory.component line
  let syntaxError ← syntaxError? line
  let java := (Watcher.paired (Java.header? folder) Java.read).react memory.java line
  let frame ← continued memory.message (readFrame · line)
  let message ← errorMessage? settings folder line
  let vue := (LinePass.lintWatcher .vue [".vue".toList]).react memory.componentFile line
  return (lint.1 ++ wrapped ++ parenthesized.toList ++ component.1 ++ syntaxError.toList ++
      java.1 ++ frame ++ vue.1,
    { lintFile := lint.2, wrapped := TypeScript.wrappedHeader? line, component := component.2,
      java := java.2, message := message, componentFile := vue.2 })

def scanLines (settings : Settings) (folder : Text) (lines : List Text) : Checked (List Attempt) :=
  scan (scanLine settings folder) (fun _ => []) {} lines

/-- The watcher of components remembers the place in a header; the scan keeps the header. -/
def componentWatcher : Watcher :=
  .patient TypeScript.componentHeader? fun place line => some (TypeScript.readComponent place line)

theorem componentWatcher_of_blank {line : Text} (blank : isBlankLine line = true)
    (place : Option Text) :
    componentWatcher.react place line = ([], (TypeScript.componentHeader? line).or place) :=
  if_pos blank

theorem componentWatcher_of_speaking {line : Text} (speaking : ¬ isBlankLine line = true)
    (place : Option Text) :
    componentWatcher.react place line =
      ((place.map (TypeScript.readComponent · line)).toList, TypeScript.componentHeader? line) := by
  refine (if_neg speaking).trans ?_
  cases place with
  | none => rfl
  | some place => rfl

structure IsComponent (header : Text) : Prop where
  small : size header < Numeral.limit
  opens : (TypeScript.componentHeader? header).isSome = true

theorem componentHeader?_eq (line : Text) :
    componentHeader? line =
      if (TypeScript.componentHeader? line).isSome then some line else none := by
  unfold componentHeader? TypeScript.componentHeader? componentMark cutLowered? occursIn
  simp only [Option.isSome_map]

theorem bind_componentHeader? (line : Text) :
    (componentHeader? line).bind TypeScript.componentHeader? =
      TypeScript.componentHeader? line := by
  rw [componentHeader?_eq]
  cases opens : TypeScript.componentHeader? line with
  | none => rfl
  | some place => exact opens

theorem isComponent_of_mem {line header : Text} (small : size line < Numeral.limit)
    (opened : header ∈ componentHeader? line) : IsComponent header := by
  rw [componentHeader?_eq] at opened
  split at opened
  · next opens =>
      cases opened
      exact ⟨small, opens⟩
  · cases opened

theorem continued_readComponent {pending : Option Text}
    (components : ∀ header ∈ pending, IsComponent header) (line : Text) :
    continued pending (readComponent · line) =
      .ok ((pending.bind TypeScript.componentHeader?).map
        (TypeScript.readComponent · line)).toList := by
  cases pending with
  | none => rfl
  | some header =>
      obtain ⟨small, opens⟩ := components header rfl
      obtain ⟨place, opens⟩ := Option.isSome_iff_exists.1 opens
      rw [continued, readComponent_eq_ok small opens, Option.bind_some, opens]
      rfl

theorem scanComponent_eq_ok {pending : Option Text} {line : Text}
    (components : ∀ header ∈ pending, IsComponent header) (small : size line < Numeral.limit) :
    ∃ answer, scanComponent pending line = .ok answer ∧
      (answer.1, answer.2.bind TypeScript.componentHeader?) =
        componentWatcher.react (pending.bind TypeScript.componentHeader?) line ∧
      ∀ header ∈ answer.2, IsComponent header := by
  unfold scanComponent
  by_cases blank : isBlankLine line = true
  · rw [if_pos blank, componentWatcher_of_blank blank]
    refine ⟨_, rfl, ?_, ?_⟩
    · rw [← bind_componentHeader? line]
      cases opened : componentHeader? line with
      | none => rfl
      | some header =>
          obtain ⟨place, opens⟩ :=
            Option.isSome_iff_exists.1 (isComponent_of_mem small opened).opens
          simp only [Option.some_or, Option.bind_some, opens]
    · intro header inside
      rcases Option.or_eq_some_iff.1 inside with opened | ⟨-, waiting⟩
      · exact isComponent_of_mem small opened
      · exact components header waiting
  · rw [if_neg blank, componentWatcher_of_speaking blank, continued_readComponent components]
    refine ⟨_, rfl, ?_, fun header => isComponent_of_mem small⟩
    rw [bind_componentHeader?]

namespace LineMemory

def panel (settings : Settings) (folder : Text) (memory : LineMemory) : Panel :=
  [ ⟨LinePass.lintWatcher .eslint [".ts".toList, ".tsx".toList], memory.lintFile⟩,
    ⟨.paired TypeScript.wrappedHeader? TypeScript.readWrapped, memory.wrapped⟩,
    ⟨.single TypeScript.parenthesized?, ()⟩,
    ⟨componentWatcher, memory.component.bind TypeScript.componentHeader?⟩,
    ⟨.single Script.syntaxError?, ()⟩,
    ⟨.paired (Java.header? folder) Java.read, memory.java⟩,
    ⟨.paired (TestRunner.errorMessage? settings folder) TestRunner.readFrame, memory.message⟩,
    ⟨LinePass.lintWatcher .vue [".vue".toList], memory.componentFile⟩ ]

theorem panel_start (settings : Settings) (folder : Text) :
    panel settings folder {} = Panel.ofWatchers (LinePass.watchers settings folder) := rfl

/-- Offsets are taken of two of the pending headers. -/
structure Sound (memory : LineMemory) : Prop where
  wrapped : ∀ header ∈ memory.wrapped, size header < Numeral.limit
  component : ∀ header ∈ memory.component, IsComponent header

theorem sound_start : Sound {} where
  wrapped := by intro header pending; cases pending
  component := by intro header pending; cases pending

end LineMemory

theorem size_of_wrappedHeader? {line header : Text} (small : size line < Numeral.limit)
    (opened : header ∈ TypeScript.wrappedHeader? line) : size header < Numeral.limit :=
  size_lt_of_isInfix ((suffix_of_after? opened).isInfix.trans (trim_isInfix line)) small

theorem scanLine_eq_ok (settings : Settings) (folder : Text) {memory : LineMemory} {line : Text}
    (sound : memory.Sound) (small : size line < Numeral.limit) :
    ∃ answer, scanLine settings folder memory line = .ok answer ∧
      answer.1 = (memory.panel settings folder).flatMap (·.answer line) ∧
      answer.2.panel settings folder = (memory.panel settings folder).map (·.next line) ∧
      answer.2.Sound := by
  obtain ⟨⟨attempts, kept⟩, component, same, components⟩ :=
    scanComponent_eq_ok sound.component small
  have wrapped := continued_eq_ok memory.wrapped fun header waiting =>
    readWrapped_eq_ok (sound.wrapped header waiting) line
  have frame := continued_eq_ok memory.message fun message _ =>
    readFrame_eq_ok message small
  unfold scanLine
  simp only [wrapped, parenthesized?_eq_ok small, component, syntaxError?_eq_ok small, frame,
    errorMessage?_eq_ok, ok_bind]
  refine ⟨_, rfl, ?_, ?_, ?_⟩
  · have answered : attempts = _ := congrArg Prod.fst same
    rw [answered]
    simp only [LineMemory.panel, List.flatMap_cons, List.flatMap_nil, List.append_nil,
      List.append_assoc]
    rfl
  · have remembered : kept.bind TypeScript.componentHeader? = _ := congrArg Prod.snd same
    unfold LineMemory.panel
    rw [remembered]
    rfl
  · exact ⟨fun header => size_of_wrappedHeader? small, components⟩

theorem scanLines_eq_ok (settings : Settings) (folder : Text) {lines : List Text}
    (small : ∀ line ∈ lines, size line < Numeral.limit) :
    scanLines settings folder lines = .ok (LinePass.attempts settings folder lines) := by
  refine scan_eq_ok Panel.attempts
    (fun _ memory panel => memory.panel settings folder = panel ∧ memory.Sound)
    (fun _ _ _ => rfl) ?_ small ⟨LineMemory.panel_start settings folder, LineMemory.sound_start⟩
  rintro left memory - line ⟨rfl, sound⟩ smallLine
  obtain ⟨answer, scanned, answered, panel, soundNext⟩ :=
    scanLine_eq_ok settings folder sound smallLine
  exact ⟨answer, _, scanned, ⟨panel, soundNext⟩, fun lines => by rw [answered]; rfl⟩

/-! ## The fallback scan -/

structure FallbackMemory where
  index : Nat := 0
  suite : Option Text := none
  /-- The messages of bundler blocks, each with the number of the line that has its place. -/
  blocks : List (Nat × Text) := []

/-- Reads a line as the place of the blocks that are due, which stand at the front. -/
def release (index : Nat) (line : Text) :
    List (Nat × Text) → List Attempt × List (Nat × Text)
  | [] => ([], [])
  | (target, message) :: later =>
    if target = index then
      let released := release index line later
      (Bundler.readNested message line :: released.1, released.2)
    else ([], (target, message) :: later)

def scanSuite (suite : Option Text) (line : Text) : Checked (List Attempt × Option Text) := do
  let next ← suite? line
  if isBlankLine line then return ([], next.or suite)
  else if startsWith "FAIL ".toList line then return ([], next)
  else return ((suite.map (TestRunner.readTitle · line)).toList, next)

def scanFallbackLine (memory : FallbackMemory) (line : Text) :
    Checked (List Attempt × FallbackMemory) := do
  let next ← add memory.index 1
  let nested := release memory.index line memory.blocks
  let statement ← statement? line
  let suite ← scanSuite memory.suite line
  let attempts := nested.1 ++ statement.toList ++ suite.1
  match ← nestedHeader? line with
  | none => return (attempts, ⟨next, suite.2, nested.2⟩)
  | some message => do
    let target ← add memory.index 2
    return (attempts, ⟨next, suite.2, nested.2 ++ [(target, message)]⟩)

def scanFallback (lines : List Text) : Checked (List Attempt) :=
  scan scanFallbackLine (fun _ => []) {} lines

/-- The blocks that wait before line `index`, when their headers were the last line and the one
above it. -/
def waiting (index : Nat) (above twoAbove : Option Text) : List (Nat × Text) :=
  (twoAbove.map (index, ·)).toList ++ (above.map (index + 1, ·)).toList

theorem release_waiting (index : Nat) (line : Text) (above twoAbove : Option Text) :
    release index line (waiting index above twoAbove) =
      ((twoAbove.map (Bundler.readNested · line)).toList, (above.map (index + 1, ·)).toList) := by
  have later : release index line (above.map (index + 1, ·)).toList =
      ([], (above.map (index + 1, ·)).toList) := by
    cases above with
    | none => rfl
    | some message => exact if_neg (Nat.succ_ne_self index)
  cases twoAbove with
  | none => exact later
  | some message =>
      change release index line ((index, message) :: (above.map (index + 1, ·)).toList) = _
      rw [release, if_pos rfl, later]
      rfl

def suiteWatcher : Watcher :=
  .patient TestRunner.suite? FallbackPass.readBelowSuite

theorem scanSuite_eq_ok (suite : Option Text) (line : Text) :
    scanSuite suite line = .ok (suiteWatcher.react suite line) := by
  unfold scanSuite
  rw [suite?_eq_ok, ok_bind]
  by_cases blank : isBlankLine line = true
  · rw [if_pos blank]
    exact congrArg Except.ok (if_pos blank).symm
  · rw [if_neg blank]
    have speaking : suiteWatcher.react suite line =
        ((suite.bind (FallbackPass.readBelowSuite · line)).toList, TestRunner.suite? line) :=
      if_neg blank
    simp only [speaking, FallbackPass.readBelowSuite_eq]
    split
    · rw [Option.bind_fun_none]
      rfl
    · cases suite with
      | none => rfl
      | some path => rfl

namespace FallbackMemory

/-- The watchers with the same headers, of which the last two lines may have been some. -/
def panel (memory : FallbackMemory) (above twoAbove : Option Text) : Panel :=
  [ ⟨.distant Bundler.nestedHeader? Bundler.readNested, (above, twoAbove)⟩,
    ⟨.single TypeScript.statement?, ()⟩,
    ⟨suiteWatcher, memory.suite⟩ ]

theorem panel_start : panel {} none none = Panel.ofWatchers FallbackPass.watchers := rfl

end FallbackMemory

theorem scanFallbackLine_eq_ok {memory : FallbackMemory} {line : Text}
    {above twoAbove : Option Text} (blocks : memory.blocks = waiting memory.index above twoAbove)
    (few : memory.index + 2 < Numeral.limit) (small : size line < Numeral.limit) :
    ∃ answer, scanFallbackLine memory line = .ok answer ∧
      answer.1 = (memory.panel above twoAbove).flatMap (·.answer line) ∧
      answer.2.panel (Bundler.nestedHeader? line) above =
        (memory.panel above twoAbove).map (·.next line) ∧
      answer.2.index = memory.index + 1 ∧
      answer.2.blocks = waiting answer.2.index (Bundler.nestedHeader? line) above := by
  have next : add memory.index 1 = .ok (memory.index + 1) := add_eq_ok (by omega)
  have target : add memory.index 2 = .ok (memory.index + 2) := add_eq_ok few
  unfold scanFallbackLine
  simp only [next, blocks, release_waiting, statement?_eq_ok small, scanSuite_eq_ok,
    nestedHeader?_eq_ok, target, ok_bind]
  have answered : (twoAbove.map (Bundler.readNested · line)).toList ++
      (TypeScript.statement? line).toList ++ (suiteWatcher.react memory.suite line).1 =
      (memory.panel above twoAbove).flatMap (·.answer line) := by
    simp only [FallbackMemory.panel, List.flatMap_cons, List.flatMap_nil, List.append_nil,
      List.append_assoc]
    rfl
  -- what waits for the next line was opened by this line and the one above it
  have remembered : ∀ next : FallbackMemory, ∀ opened,
      next.suite = (suiteWatcher.react memory.suite line).2 →
      Bundler.nestedHeader? line = opened →
      next.panel opened above = (memory.panel above twoAbove).map (·.next line) := by
    rintro next - suite rfl
    unfold FallbackMemory.panel
    rw [suite]
    rfl
  cases header : Bundler.nestedHeader? line with
  | none =>
      exact ⟨_, rfl, answered, remembered _ _ rfl header, rfl, (List.append_nil _).symm⟩
  | some message =>
      exact ⟨_, rfl, answered, remembered _ _ rfl header, rfl, rfl⟩

theorem scanFallback_eq_ok {lines : List Text} (small : ∀ line ∈ lines, size line < Numeral.limit)
    (few : lines.length + 1 < Numeral.limit) :
    scanFallback lines = .ok (FallbackPass.attempts lines) := by
  -- the lines that are left leave room for the number of the line two below the present one
  refine scan_eq_ok Panel.attempts
    (fun left memory panel => ∃ above twoAbove, memory.panel above twoAbove = panel ∧
      memory.blocks = waiting memory.index above twoAbove ∧
      memory.index + left + 1 < Numeral.limit)
    (fun _ _ _ => rfl) ?_ small ⟨none, none, FallbackMemory.panel_start, rfl, by simpa using few⟩
  rintro left memory - line ⟨above, twoAbove, rfl, blocks, room⟩ smallLine
  obtain ⟨answer, scanned, answered, panel, index, blocksNext⟩ :=
    scanFallbackLine_eq_ok blocks (by omega) smallLine
  exact ⟨answer, _, scanned, ⟨_, _, panel, blocksNext, by omega⟩,
    fun lines => by rw [answered]; rfl⟩

/-! ## The Swift scan -/

structure SwiftMemory where
  pending : Option Text := none
  skip : Nat := 0

def scanSwiftLine (contextSkip : Nat) (memory : SwiftMemory) (line : Text) :
    Checked (List SwiftPass.Outcome × SwiftMemory) :=
  if 0 < memory.skip then do
    let left ← sub memory.skip 1
    return ([], { memory with skip := left })
  else
    match memory.pending with
    | none => return ([], ⟨if Swift.isCandidate line then some line else none, memory.skip⟩)
    | some candidate =>
      if Swift.isCandidate line then return ([.replaced candidate], ⟨some line, memory.skip⟩)
      else if SwiftPass.isRemark line then return ([], memory)
      else do
        let attempt ← readSwift candidate (trim line)
        return ([.read candidate attempt],
          ⟨none, if attempt.accepted?.isSome then contextSkip else 0⟩)

def scanSwift (contextSkip : Nat) (lines : List Text) : Checked (List SwiftPass.Outcome) :=
  scan (scanSwiftLine contextSkip)
    (fun memory => (memory.pending.map SwiftPass.Outcome.unpaired).toList) {} lines

namespace SwiftMemory

def state (memory : SwiftMemory) : SwiftPass.State :=
  match memory.pending with
  | none => .searching memory.skip
  | some candidate => .holding candidate

/-- A pending candidate is a line, and no lines are passed over while it waits. -/
structure Sound (memory : SwiftMemory) : Prop where
  small : ∀ candidate ∈ memory.pending, size candidate < Numeral.limit
  idle : memory.pending.isSome = true → memory.skip = 0

theorem sound_of_idle (skip : Nat) : Sound ⟨none, skip⟩ where
  small := by intro candidate pending; cases pending
  idle := by intro pending; cases pending

end SwiftMemory

theorem scanSwiftLine_eq_ok (contextSkip : Nat) {memory : SwiftMemory} {line : Text}
    (sound : memory.Sound) (small : size line < Numeral.limit) :
    ∃ answer, scanSwiftLine contextSkip memory line = .ok answer ∧
      (answer.1, answer.2.state) = SwiftPass.step contextSkip memory.state line ∧
      answer.2.Sound := by
  obtain ⟨pending, skip⟩ := memory
  have fresh : SwiftMemory.Sound ⟨some line, 0⟩ :=
    ⟨fun candidate same => Option.mem_some_iff.1 same ▸ small, fun _ => rfl⟩
  unfold scanSwiftLine
  cases pending with
  | none =>
      cases skip with
      | succ left =>
          rw [if_pos (Nat.succ_pos left), sub_eq_ok (Nat.le_add_left 1 left)]
          exact ⟨_, rfl, rfl, SwiftMemory.sound_of_idle left⟩
      | zero =>
          simp only [Nat.lt_irrefl, ↓reduceIte, SwiftMemory.state, SwiftPass.step]
          by_cases candidate : Swift.isCandidate line = true
          · simp only [candidate, ↓reduceIte]
            exact ⟨_, rfl, rfl, fresh⟩
          · simp only [candidate]
            exact ⟨_, rfl, rfl, SwiftMemory.sound_of_idle 0⟩
  | some candidate =>
      obtain rfl : skip = 0 := sound.idle rfl
      -- a candidate that waits was a line of the log, so its offsets are machine words
      have reading : readSwift candidate (trim line) = .ok (Swift.read candidate line) := by
        rw [readSwift_eq_ok (sound.small candidate rfl), Swift.read_trim]
      simp only [Nat.lt_irrefl, ↓reduceIte, SwiftMemory.state, SwiftPass.step]
      by_cases another : Swift.isCandidate line = true
      · simp only [another, ↓reduceIte]
        exact ⟨_, rfl, rfl, fresh⟩
      · by_cases remark : SwiftPass.isRemark line = true
        · simp only [another, remark, ↓reduceIte]
          exact ⟨_, rfl, rfl, sound⟩
        · simp only [another, remark, reading, ok_bind]
          exact ⟨_, rfl, rfl, SwiftMemory.sound_of_idle _⟩

theorem scanSwift_eq_ok (contextSkip : Nat) {lines : List Text}
    (small : ∀ line ∈ lines, size line < Numeral.limit) :
    scanSwift contextSkip lines = .ok (SwiftPass.outcomes contextSkip lines) := by
  refine scan_eq_ok (SwiftPass.outcomesFrom contextSkip)
    (fun _ memory state => memory.state = state ∧ memory.Sound) ?_ ?_ small
    ⟨rfl, SwiftMemory.sound_of_idle 0⟩
  · rintro ⟨pending, skip⟩ - ⟨rfl, -⟩
    cases pending with
    | none => rfl
    | some candidate => rfl
  · rintro left memory - line ⟨rfl, sound⟩ smallLine
    obtain ⟨answer, scanned, stepped, soundNext⟩ :=
      scanSwiftLine_eq_ok contextSkip sound smallLine
    refine ⟨answer, _, scanned, ⟨rfl, soundNext⟩, fun lines => ?_⟩
    rw [SwiftPass.outcomesFrom, ← stepped]

end BuildLog.Bytewise
