import BuildLog.Extraction

/-!
# Summaries

A summary says in one line how much was found, in which formats and files, and where to look first.
-/

set_option autoImplicit false

namespace BuildLog

open Text

structure Summary where
  total : Nat
  phase : Option Phase
  /-- The formats that occur and how often, in the order of the formats. -/
  byFormat : List (Format × Nat)
  /-- The files that occur, in the order in which they were met. -/
  files : List Text
  first : Option Record
  deriving DecidableEq

/-- What a walk over the diagnostics has gathered so far. -/
structure Tally where
  byFormat : List (Format × Nat) := []
  seen : List Text := []
  files : List Text := []

namespace Tally

/-- One more for a format.  The entries stand in the order of the formats, and a format without an
entry is given one in its place. -/
def bump (format : Format) : List (Format × Nat) → List (Format × Nat)
  | [] => [(format, 1)]
  | (other, n) :: entries =>
      if format = other then (other, n + 1) :: entries
      else if format.rank < other.rank then (format, 1) :: (other, n) :: entries
      else (other, n) :: bump format entries

def add (tally : Tally) (diagnostic : Diagnostic) : Tally :=
  let uri := diagnostic.record.uri
  { byFormat := bump diagnostic.format tally.byFormat
    seen := tally.seen.insert uri
    files := if uri ∈ tally.seen then tally.files else tally.files ++ [uri] }

def ofDiagnostics (diagnostics : List Diagnostic) : Tally :=
  diagnostics.foldl add {}

end Tally

namespace Summary

def ofExtraction (extraction : Extraction) : Summary :=
  let tally := Tally.ofDiagnostics extraction.diagnostics
  { total := extraction.diagnostics.length
    phase := extraction.phase
    byFormat := tally.byFormat
    files := tally.files
    first := extraction.records.head? }

/-- The more frequent format comes first, and of two that are equally frequent the one that comes
first among the formats. -/
def order (first second : Format × Nat) : Ordering :=
  (compare second.2 first.2).then (compare first.1.rank second.1.rank)

def ranking (summary : Summary) : List (Format × Nat) :=
  summary.byFormat.mergeSort fun first second => (order first second).isLE

def counted (n : Nat) (noun : Text) : Text :=
  Numeral.render n ++ ' ' :: noun ++ if n = 1 then [] else ['s']

def heading (summary : Summary) : Text :=
  '[' :: counted summary.total "error".toList ++ [']'] ++
    match summary.phase with
    | some phase => ' ' :: phase.name
    | none => []

def formatCounts (summary : Summary) : Text :=
  ", ".toList.intercalate
    (summary.ranking.map fun entry => entry.1.name ++ ':' :: Numeral.render entry.2)

def firstPlace? (summary : Summary) : Option Text :=
  summary.first.map fun record => "first=".toList ++ record.location

def compact (summary : Summary) : Text :=
  if summary.total = 0 then "[no errors]".toList
  else
    " | ".toList.intercalate
      ([summary.heading, summary.formatCounts, counted summary.files.length "file".toList] ++
        summary.firstPlace?.toList)

end Summary

end BuildLog
