import BuildLog.Pass.Panel
import BuildLog.Recognizer.Compilers
import BuildLog.Recognizer.Runners

/-!
# The layouts of the passes

Which layouts each pass looks for, and in which order.
-/

set_option autoImplicit false

/-! ## The line pass

The layouts that can stand anywhere in a log, in one or two lines.
-/

namespace BuildLog.LinePass

open Text

def fileNamed? (endings : List Text) (line : Text) : Option Text :=
  if endings.any fun ending => endsWith ending (trim line) then some (trim line) else none

/-- The files whose names end in one of some endings, with lint entries below them. -/
def lintWatcher (format : Format) (endings : List Text) : Watcher :=
  .listing (fileNamed? endings) fun file line => Lint.readEntry format file (trim line)

def watchers (settings : Settings) (folder : Text) : List Watcher :=
  [ lintWatcher .eslint [".ts".toList, ".tsx".toList],
    .paired TypeScript.wrappedHeader? TypeScript.readWrapped,
    .single TypeScript.parenthesized?,
    .patient TypeScript.componentHeader? fun place line =>
      some (TypeScript.readComponent place line),
    .single Script.syntaxError?,
    .paired (Java.header? folder) Java.read,
    .paired (TestRunner.errorMessage? settings folder) TestRunner.readFrame,
    lintWatcher .vue [".vue".toList] ]

def attempts (settings : Settings) (folder : Text) (lines : List Text) : List Attempt :=
  (Panel.ofWatchers (watchers settings folder)).attempts lines

end BuildLog.LinePass

/-! ## The fallback pass

Layouts that are tried only when nothing else was found.
-/

namespace BuildLog.FallbackPass

/-- Reads the line below a failed suite as the title of a test, unless it names another suite. -/
def readBelowSuite (path line : Text) : Option Attempt :=
  match TestRunner.suite? line with
  | some _ => none
  | none => some (TestRunner.readTitle path line)

def watchers : List Watcher :=
  [ .distant Bundler.nestedHeader? Bundler.readNested,
    .single TypeScript.statement?,
    .patient TestRunner.suite? readBelowSuite ]

def attempts (lines : List Text) : List Attempt :=
  (Panel.ofWatchers watchers).attempts lines

end BuildLog.FallbackPass

/-! ## The block pass

Some tools print a single error and nothing else.  The whole output is then one block, and its first
lines tell which.
-/

namespace BuildLog.BlockPass

open Text

structure Detector where
  applies : Text → Bool
  reads : List Text → Attempt

def detectors : List Detector :=
  [ ⟨startsWith "Failed to compile.".toList, Bundler.readCompilation⟩,
    ⟨occursIn Lint.errorLabel, Lint.readReport⟩,
    ⟨startsWith Bundler.errorMark, Bundler.readBlock⟩ ]

/-- The lines of an output without the carriage returns at their ends. -/
def linesOf (text : Text) : List Text :=
  (text.splitOn '\n').map (dropEndWhile (· = '\r'))

/-- The attempts of the detectors that apply, up to the first that succeeds. -/
def attemptsOf (text : Text) : List Detector → List Attempt
  | [] => []
  | detector :: rest =>
    if detector.applies text then
      match detector.reads (linesOf text) with
      | .ok diagnostic => [.ok diagnostic]
      | .error failure => .error failure :: attemptsOf text rest
    else attemptsOf text rest

def attempts (text : Text) : List Attempt :=
  attemptsOf text detectors

end BuildLog.BlockPass
