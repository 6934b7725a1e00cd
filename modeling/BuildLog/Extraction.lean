import BuildLog.Event
import BuildLog.Pass.Layouts
import BuildLog.Terminal

/-!
# Extraction

The passes run in a fixed order over the output, and the first that finds something ends the run.
A Swift build log is the one exception: its pass is the last one whether it finds something or not.
-/

set_option autoImplicit false

namespace BuildLog

open Text

structure Capture where
  text : Text := []
  /-- The output line by line; when there is none, the text is split. -/
  logs : List Text := []
  folder : Text := []

structure Extraction where
  /-- The phase that produced the diagnostics.  A Swift build log is reported without any. -/
  phase : Option Phase := none
  diagnostics : List Diagnostic := []
  deriving DecidableEq

def Extraction.records (extraction : Extraction) : List Record :=
  extraction.diagnostics.map Diagnostic.record

/-- A log line without escape sequences and without the carriage return at its end. -/
def normalizeLine (line : Text) : Text :=
  let line := Terminal.strip line
  if endsWith ['\r'] line then line.dropLast else line

def splitLines (text : Text) : List Text :=
  if text = [] then [] else (text.splitOn '\n').map normalizeLine

namespace Capture

def plainText (capture : Capture) : Text :=
  Terminal.strip capture.text

def lines (capture : Capture) : List Text :=
  if capture.logs = [] then splitLines capture.plainText else capture.logs.map normalizeLine

/-- The log lines without a first line that only repeats how the build was started. -/
def scannedLines (capture : Capture) : List Text :=
  match capture.lines with
  | first :: rest =>
    if startsWith "[error] Command line invocation:".toList first then rest else first :: rest
  | [] => []

/-- The lines of the fallback pass: those of the text, or the log lines when there is no text. -/
def fallbackLines (capture : Capture) : List Text :=
  if capture.plainText = [] then capture.lines else splitLines capture.plainText

def isSwiftLog (settings : Settings) (capture : Capture) : Bool :=
  settings.xcodeSentinel ≠ [] && capture.lines.any (occursIn settings.xcodeSentinel)

end Capture

/-- What one pass has found and what it has to tell. -/
structure Findings where
  diagnostics : List Diagnostic
  events : List Event

namespace Findings

def ofSwift (settings : Settings) (capture : Capture) : Findings :=
  let outcomes := SwiftPass.outcomes settings.xcodeContextSkip capture.lines
  ⟨outcomes.filterMap SwiftPass.Outcome.accepted?, outcomes.filterMap Event.ofCandidate?⟩

def ofBlock (capture : Capture) : Findings :=
  let attempts := BlockPass.attempts capture.plainText
  ⟨attempts.filterMap Attempt.accepted?, attempts.map Event.ofBlock⟩

def ofLines (settings : Settings) (capture : Capture) : Findings :=
  let attempts := LinePass.attempts settings capture.folder capture.scannedLines
  ⟨attempts.filterMap Attempt.accepted?,
    (attempts.filterMap Attempt.dropped?).map Event.lineDropped⟩

def ofFallback (capture : Capture) : Findings :=
  let attempts := FallbackPass.attempts capture.fallbackLines
  ⟨attempts.filterMap Attempt.accepted?,
    (attempts.filterMap Attempt.dropped?).map Event.fallbackDropped⟩

def conclude (findings : Findings) (phase : Phase) : Extraction × List Event :=
  (⟨some phase, findings.diagnostics⟩,
    findings.events ++ [.extracted phase findings.diagnostics.length])

end Findings

namespace Extraction

/-- The passes over an output that is no Swift build log, in the order in which they are tried. -/
def passes (settings : Settings) : List (Phase × (Capture → Findings)) :=
  [(.wholeBlob, Findings.ofBlock), (.lineScan, Findings.ofLines settings),
    (.fallback, Findings.ofFallback)]

/-- Runs passes up to the first that finds something; what the others tell is kept. -/
def runPasses (capture : Capture) :
    List (Phase × (Capture → Findings)) → Extraction × List Event
  | [] => ({}, [.nothingFound capture.lines.length])
  | (phase, pass) :: rest =>
    let findings := pass capture
    if findings.diagnostics.isEmpty then
      let later := runPasses capture rest
      (later.1, findings.events ++ later.2)
    else findings.conclude phase

def traced (settings : Settings) (capture : Capture) : Extraction × List Event :=
  if capture.isSwiftLog settings then (Findings.ofSwift settings capture).conclude .xcode
  else runPasses capture (passes settings)

def ofCapture (settings : Settings) (capture : Capture) : Extraction :=
  (traced settings capture).1

end Extraction

end BuildLog
