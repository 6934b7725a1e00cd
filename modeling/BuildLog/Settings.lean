import BuildLog.Text.Basic

/-!
# Settings

The knobs of an extraction.  They are values handed in, so an extraction is a function of its input.
Documents of any kind that hold settings are read by one function here, which only asks for the
value of a key.
-/

set_option autoImplicit false

namespace BuildLog

structure Settings where
  /-- A text whose presence in some line makes the whole input a Swift build log. -/
  xcodeSentinel : Text := "Building xArchive".toList
  /-- How many lines are passed over after each record of a Swift build log. -/
  xcodeContextSkip : Nat := 2
  /-- The length up to which the message of a failed test is kept whole. -/
  jasmineMaxMessage : Nat := 100
  /-- How much of the start of a longer message is kept. -/
  jasmineHead : Nat := 80
  /-- How much of the end of a longer message is kept. -/
  jasmineTail : Nat := 16
  deriving DecidableEq

namespace Settings

inductive Key where
  | xcodeSentinel
  | xcodeContextSkip
  | jasmineMaxMessage
  | jasmineHead
  | jasmineTail
  deriving DecidableEq

namespace Key

def name : Key → Text
  | xcodeSentinel => "xcode_sentinel".toList
  | xcodeContextSkip => "xcode_context_skip".toList
  | jasmineMaxMessage => "jasmine_max_message".toList
  | jasmineHead => "jasmine_head".toList
  | jasmineTail => "jasmine_tail".toList

/-- The place of a key in a document that lists values without their keys. -/
def position : Key → Nat
  | xcodeSentinel => 0
  | xcodeContextSkip => 1
  | jasmineMaxMessage => 2
  | jasmineHead => 3
  | jasmineTail => 4

end Key

/-- Reads settings from a document.  A key without a value keeps its default; a value of the wrong
kind spoils the whole. -/
def read? {α : Type} (find? : Key → Option α) (text? : α → Option Text)
    (natural? : α → Option Nat) : Option Settings := do
  let defaults : Settings := {}
  let sentinel ← readOr text? defaults.xcodeSentinel (find? .xcodeSentinel)
  let skip ← readOr natural? defaults.xcodeContextSkip (find? .xcodeContextSkip)
  let most ← readOr natural? defaults.jasmineMaxMessage (find? .jasmineMaxMessage)
  let head ← readOr natural? defaults.jasmineHead (find? .jasmineHead)
  let tail ← readOr natural? defaults.jasmineTail (find? .jasmineTail)
  return ⟨sentinel, skip, most, head, tail⟩
where
  /-- Reads a value, or takes the default when there is none. -/
  readOr {β : Type} (read : α → Option β) (default : β) : Option α → Option β
    | none => some default
    | some value => read value

end Settings

end BuildLog
