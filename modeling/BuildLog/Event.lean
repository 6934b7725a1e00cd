import BuildLog.Pass.Layouts
import BuildLog.Pass.Swift

/-!
# Events

An extraction tells what it did besides its result: which candidates were dropped and why, and how
the run ended.
-/

set_option autoImplicit false

namespace BuildLog

inductive Level where
  | trace
  | debug
  deriving DecidableEq

def Level.name : Level → Text
  | .trace => "TRACE".toList
  | .debug => "DEBUG".toList

inductive Event where
  | extracted (phase : Phase) (count : Nat)
  | nothingFound (lines : Nat)
  | blockMatched (format : Format) (uri : Text)
  | blockDropped (failure : Failure)
  | lineDropped (failure : Failure)
  | fallbackDropped (failure : Failure)
  | candidateReplaced (candidate : Text)
  | candidateDropped (failure : Failure) (candidate : Text)
  | candidateUnpaired (candidate : Text)
  deriving DecidableEq

namespace Event

def level : Event → Level
  | extracted .. | nothingFound .. | blockMatched .. => .debug
  | _ => .trace

def message : Event → Text
  | extracted .. => "Extracted build errors".toList
  | nothingFound .. => "No build errors recognized".toList
  | blockMatched .. => "Whole-blob match".toList
  | blockDropped .. => "Whole-blob candidate dropped".toList
  | lineDropped .. => "Line candidate dropped".toList
  | fallbackDropped .. => "Fallback candidate dropped".toList
  | candidateReplaced .. => "Xcode candidate replaced before pairing".toList
  | candidateDropped .. => "Xcode candidate dropped".toList
  | candidateUnpaired .. => "Xcode candidate left without context".toList

def fields : Event → List (Text × Text)
  | extracted phase count =>
    [("phase".toList, phase.name), ("count".toList, Numeral.render count)]
  | nothingFound lines => [("lines".toList, Numeral.render lines)]
  | blockMatched format uri => [("format".toList, format.name), ("uri".toList, uri)]
  | blockDropped failure => [("failure".toList, failure.message)]
  | lineDropped failure => [("failure".toList, failure.message)]
  | fallbackDropped failure => [("failure".toList, failure.message)]
  | candidateReplaced candidate => [("candidate".toList, candidate)]
  | candidateDropped failure candidate =>
    [("failure".toList, failure.message), ("candidate".toList, candidate)]
  | candidateUnpaired candidate => [("candidate".toList, candidate)]

def ofBlock : Attempt → Event
  | .ok diagnostic => blockMatched diagnostic.format diagnostic.record.uri
  | .error failure => blockDropped failure

def ofCandidate? : SwiftPass.Outcome → Option Event
  | .replaced candidate => some (candidateReplaced candidate)
  | .read candidate attempt => attempt.dropped?.map (candidateDropped · candidate)
  | .unpaired candidate => some (candidateUnpaired candidate)

end Event

end BuildLog
