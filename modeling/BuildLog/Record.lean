import BuildLog.Format
import BuildLog.Numeral
import BuildLog.Text.Characters
import BuildLog.Text.Quoted

/-!
# Records and failures

What a candidate gives: a record, or the reason why it gives none.
-/

set_option autoImplicit false

/-! ## Why a candidate gives no record

A candidate that fails never stops an extraction; its failure is only reported as an event.
-/

namespace BuildLog

open Text

inductive Failure where
  /-- The text does not have the shape of the format at all. -/
  | noMatch (format : Format)
  /-- A header fits, what belongs to it does not. -/
  | unrecognized (format : Format) (reason : Text)
  | notANumber (format : Format) (field token : Text)
  | emptyField (format : Format) (field : Text)
  deriving DecidableEq

namespace Failure

def format : Failure → Format
  | noMatch format => format
  | unrecognized format _ => format
  | notANumber format _ _ => format
  | emptyField format _ => format

def message : Failure → Text
  | noMatch format => format.name ++ ": input does not look like this format".toList
  | unrecognized format reason =>
    format.name ++ ": unrecognized shape (".toList ++ reason ++ ")".toList
  | notANumber format field token =>
    format.name ++ ": ".toList ++ field ++ " is not a number: ".toList ++ quoted token
  | emptyField format field => format.name ++ ": empty ".toList ++ field

end Failure

/-! ## Records

A record is one build problem at a place an editor can jump to.  Coordinates are kept from zero;
tools print them from one, and the conversion is made once, where a record is built.
-/

open Text

/-- A file and a place in it, counted from one as tools and editors print it. -/
structure Location where
  path : Text
  line : Nat
  column : Nat
  deriving DecidableEq

def Location.render (place : Location) : Text :=
  place.path ++ ':' :: Numeral.render place.line ++ ':' :: Numeral.render place.column

structure Record where
  uri : Text
  line : Nat
  position : Nat
  error : Text
  deriving DecidableEq

namespace Record

/-- The record of coordinates that count from zero.  File and message are trimmed, and neither may
be blank. -/
def ofZeroBased (format : Format) (uri : Text) (line position : Nat) (error : Text) :
    Except Failure Record :=
  if trim uri = [] then .error (.emptyField format "uri".toList)
  else if trim error = [] then .error (.emptyField format "error".toList)
  else .ok ⟨trim uri, line, position, trim error⟩

/-- The record of coordinates that count from one; a zero stays zero. -/
def ofOneBased (format : Format) (uri : Text) (line column : Nat) (error : Text) :
    Except Failure Record :=
  ofZeroBased format uri (line - 1) (column - 1) error

def location (record : Record) : Text :=
  Location.render ⟨record.uri, record.line + 1, record.position + 1⟩

def display (record : Record) : Text :=
  record.location ++ ": ".toList ++ record.error

end Record

structure Diagnostic where
  format : Format
  record : Record
  deriving DecidableEq

/-- What a recognizer makes of a candidate. -/
abbrev Attempt := Except Failure Diagnostic

namespace Diagnostic

def ofOneBased (format : Format) (uri : Text) (line column : Nat) (error : Text) : Attempt :=
  (Record.ofOneBased format uri line column error).map (Diagnostic.mk format)

def ofZeroBased (format : Format) (uri : Text) (line position : Nat) (error : Text) : Attempt :=
  (Record.ofZeroBased format uri line position error).map (Diagnostic.mk format)

def atLocation (format : Format) (place : Location) (error : Text) : Attempt :=
  ofOneBased format place.path place.line place.column error

end Diagnostic

namespace Attempt

def accepted? : Attempt → Option Diagnostic
  | .ok diagnostic => some diagnostic
  | .error _ => none

def dropped? : Attempt → Option Failure
  | .ok _ => none
  | .error failure => some failure

end Attempt

end BuildLog
