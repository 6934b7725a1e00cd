import BuildLog.Numeral
import BuildLog.Settings
import BuildLog.Text.Characters
import BuildLog.Toml.Reader

/-!
# Where settings come from

Settings are given in the environment or in a document.
-/

set_option autoImplicit false

/-! ## Settings in the environment

Three settings can be given by environment variables.  A variable that should hold a number and does
not is passed over with a warning.
-/

namespace BuildLog

open Text

/-- The variables that hold settings; one that is not set has no value. -/
structure Environment where
  xcodeSentinel : Option Text := none
  xcodeContextSkip : Option Text := none
  jasmineMaxMessage : Option Text := none

namespace Environment

def nameOf? : Settings.Key → Option Text
  | .xcodeSentinel => some "ERRSCAN_XCODE_SENTINEL".toList
  | .xcodeContextSkip => some "ERRSCAN_XCODE_CONTEXT_SKIP".toList
  | .jasmineMaxMessage => some "ERRSCAN_JASMINE_MAX_MESSAGE".toList
  | _ => none

/-- The number in a variable; blanks around it do not matter. -/
def number? (value : Option Text) : Option Nat :=
  value.bind fun t => Numeral.read? (trim t)

def settings (environment : Environment) : Settings :=
  let defaults : Settings := {}
  { defaults with
    xcodeSentinel := (environment.xcodeSentinel.filter (· ≠ [])).getD defaults.xcodeSentinel
    xcodeContextSkip := (number? environment.xcodeContextSkip).getD defaults.xcodeContextSkip
    jasmineMaxMessage := (number? environment.jasmineMaxMessage).getD defaults.jasmineMaxMessage }

def isIgnored (value : Option Text) : Bool :=
  value.isSome && (number? value).isNone

def ignored (environment : Environment) : List Settings.Key :=
  (if isIgnored environment.xcodeContextSkip then [.xcodeContextSkip] else []) ++
    if isIgnored environment.jasmineMaxMessage then [.jasmineMaxMessage] else []

end Environment

end BuildLog

/-! ## Settings in a TOML document

The settings stand in the table `extractor`.  Other keys are none of our business, but the document
as a whole must be well-formed.
-/

namespace BuildLog.Settings

open Toml

def tomlText? : Toml → Option Text
  | string t => some t
  | _ => none

def tomlNatural? : Toml → Option Nat
  | integer i => if 0 ≤ i then some i.toNat else none
  | _ => none

/-- Reads the settings from the value of `extractor`: a table, or an array of the values in their
order.  A date has no keys that matter. -/
def ofToml? : Toml → Option Settings
  | table _ members => read? (fun key => member? key.name members) tomlText? tomlNatural?
  | array items => read? (fun key => items[key.position]?) tomlText? tomlNatural?
  | dateTime _ => some {}
  | _ => none

/-- Reads the settings from a document; without the table they are the defaults. -/
def ofTomlText? (t : Text) : Option Settings :=
  (Toml.ofText? t).bind fun document =>
    match member? "extractor".toList document with
    | none => some {}
    | some value => ofToml? value

end BuildLog.Settings
