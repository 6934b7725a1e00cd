import BuildLog.Json.Documents

/-!
# Reports

Records are printed for people, one a line with coordinates that count from one, or as a JSON array
with coordinates that count from zero.
-/

set_option autoImplicit false

namespace BuildLog

inductive Report where
  | text
  | json
  deriving DecidableEq

namespace Report

def renderText (records : List Record) : Text :=
  records.flatMap fun record => record.display ++ ['\n']

def renderJson (records : List Record) : Text :=
  (Json.array (records.map Record.toJson)).pretty 0

def recordsOfJson? (t : Text) : Option (List Record) :=
  (Json.ofText? t).bind (Json.listOf? Record.ofJson?)

def ofName? (name : Text) : Option Report :=
  if name = "text".toList then some text
  else if name = "json".toList then some json
  else none

def render : Report → List Record → Text
  | text, records => renderText records
  | json, records => renderJson records ++ ['\n']

end Report

end BuildLog
