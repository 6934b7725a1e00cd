import BuildLog.Numeral

/-!
# JSON values

Numbers are natural numbers wherever this library writes them.  Any other number can stand in a
document that is read, so it is kept as it is spelled.
-/

set_option autoImplicit false

namespace BuildLog

inductive Json where
  | null
  | bool (b : Bool)
  | natural (n : Nat)
  | otherNumber (spelling : Text)
  | string (t : Text)
  | array (items : List Json)
  | object (members : List (Text × Json))

namespace Json

/-- The value of a member; of several members of one name the last counts. -/
def member? (name : Text) : Json → Option Json
  | object members => (members.reverse.find? fun member => member.1 = name).map Prod.snd
  | _ => none

def text? : Json → Option Text
  | string t => some t
  | _ => none

def natural? : Json → Option Nat
  | natural n => if n < Numeral.limit then some n else none
  | _ => none

def items? : Json → Option (List Json)
  | array items => some items
  | _ => none

/-- The items of an array, each read in one way; one bad item spoils all. -/
def listOf? {α : Type} (read : Json → Option α) (value : Json) : Option (List α) :=
  value.items?.bind fun items => items.mapM read

/-- The constant that a name stands for: a string, or an object with the name as its only key and
`null` as its value. -/
def constant? {α : Type} (ofName? : Text → Option α) : Json → Option α
  | string name => ofName? name
  | object [(name, null)] => ofName? name
  | _ => none

def optional? {α : Type} (read : Json → Option α) : Json → Option (Option α)
  | null => some none
  | value => (read value).map some

end Json

end BuildLog
