import BuildLog.Recognizer.Compilers

/-!
# The Swift pass

A Swift build log mixes its diagnostics with a lot of context.  A candidate waits for the next line
that is neither blank nor in parentheses, and after each record some lines are passed over, because
they only restate the source.  A candidate that meets another one before its line has come is
replaced by it.
-/

set_option autoImplicit false

namespace BuildLog.SwiftPass

open Text

inductive Outcome where
  /-- Another candidate came before a line that belongs to this one. -/
  | replaced (candidate : Text)
  /-- The candidate was read together with its line. -/
  | read (candidate : Text) (attempt : Attempt)
  | unpaired (candidate : Text)

/-- Where the pass stands between two lines. -/
inductive State where
  /-- Looking for a candidate, once some lines have been passed over. -/
  | searching (passOver : Nat)
  /-- Holding a candidate that waits for its line. -/
  | holding (candidate : Text)

def isRemark (line : Text) : Bool :=
  isBlankLine line || startsWith ['('] (trim line)

/-- One line of the log; `skip` lines are passed over after a record. -/
def step (skip : Nat) : State → Text → List Outcome × State
  | .searching (left + 1), _ => ([], .searching left)
  | .searching 0, line => ([], if Swift.isCandidate line then .holding line else .searching 0)
  | .holding candidate, line =>
    if Swift.isCandidate line then ([.replaced candidate], .holding line)
    else if isRemark line then ([], .holding candidate)
    else
      let attempt := Swift.read candidate line
      ([.read candidate attempt], .searching (if attempt.accepted?.isSome then skip else 0))

def finish : State → List Outcome
  | .searching _ => []
  | .holding candidate => [.unpaired candidate]

def outcomesFrom (skip : Nat) (state : State) : List Text → List Outcome
  | [] => finish state
  | line :: lines =>
    let answer := step skip state line
    answer.1 ++ outcomesFrom skip answer.2 lines

def outcomes (skip : Nat) (lines : List Text) : List Outcome :=
  outcomesFrom skip (.searching 0) lines

def Outcome.accepted? : Outcome → Option Diagnostic
  | .read _ attempt => attempt.accepted?
  | _ => none

end BuildLog.SwiftPass
