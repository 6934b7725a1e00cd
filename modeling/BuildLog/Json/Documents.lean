import BuildLog.Json.Reader
import BuildLog.Json.Writer
import BuildLog.Summary

/-!
# The documents of this library

How records, diagnostics, extractions, summaries and settings are written as JSON, and how they are
read back.  A reader takes an object with further members, and for most types also an array of the
members in their order.
-/

set_option autoImplicit false

namespace BuildLog

open Json

def Json.required? {α : Type} (name : Text) (read : Json → Option α) (value : Json) : Option α :=
  (value.member? name).bind read

def Json.optionalMember? {α : Type} (name : Text) (read : Json → Option α) (value : Json) :
    Option (Option α) :=
  optional? read ((value.member? name).getD null)

namespace Format

def toJson (format : Format) : Json :=
  string format.name

def ofJson? : Json → Option Format :=
  constant? ofName?

end Format

namespace Phase

def toJson : Option Phase → Json
  | some phase => string phase.name
  | none => null

def ofJson? : Json → Option Phase :=
  constant? ofName?

end Phase

namespace Record

def members (record : Record) : List (Text × Json) :=
  [ ("uri".toList, string record.uri), ("line".toList, natural record.line),
    ("position".toList, natural record.position), ("error".toList, string record.error) ]

def toJson (record : Record) : Json :=
  object record.members

def ofMembers? (value : Json) : Option Record := do
  let uri ← value.required? "uri".toList text?
  let line ← value.required? "line".toList natural?
  let position ← value.required? "position".toList natural?
  let error ← value.required? "error".toList text?
  return ⟨uri, line, position, error⟩

def ofJson? : Json → Option Record
  | array [uri, line, position, error] => do
    return ⟨← uri.text?, ← line.natural?, ← position.natural?, ← error.text?⟩
  | value => ofMembers? value

end Record

namespace Diagnostic

/-- A diagnostic as JSON: the format is one more member of the record. -/
def toJson (diagnostic : Diagnostic) : Json :=
  object (("format".toList, diagnostic.format.toJson) :: diagnostic.record.members)

def ofJson? (value : Json) : Option Diagnostic := do
  let format ← value.required? "format".toList Format.ofJson?
  let record ← Record.ofMembers? value
  return ⟨format, record⟩

end Diagnostic

namespace Extraction

def ofJson? : Json → Option Extraction
  | array [phase, diagnostics] => do
    return ⟨← phase.optional? Phase.ofJson?, ← diagnostics.listOf? Diagnostic.ofJson?⟩
  | value => do
    let phase ← value.optionalMember? "phase".toList Phase.ofJson?
    let diagnostics ← value.required? "diagnostics".toList (listOf? Diagnostic.ofJson?)
    return ⟨phase, diagnostics⟩

end Extraction

namespace Summary

def toJson (summary : Summary) : Json :=
  object
    [ ("total".toList, natural summary.total),
      ("phase".toList, Phase.toJson summary.phase),
      ("by_format".toList,
        object (summary.byFormat.map fun entry => (entry.1.name, natural entry.2))),
      ("files".toList, array (summary.files.map string)),
      ("first".toList, (summary.first.map Record.toJson).getD null) ]

def render (summary : Summary) : Text :=
  summary.toJson.compact

/-- Reads the counts of the formats; they are kept in the order of the formats. -/
def countsOfJson? : Json → Option (List (Format × Nat))
  | object members => do
    let entries ← members.mapM fun member => do
      return (← Format.ofName? member.1, ← member.2.natural?)
    return Format.all.filterMap fun format => entries.reverse.find? fun entry => entry.1 = format
  | _ => none

def ofJson? (value : Json) : Option Summary := do
  let total ← value.required? "total".toList natural?
  let phase ← value.optionalMember? "phase".toList Phase.ofJson?
  let byFormat ← value.required? "by_format".toList countsOfJson?
  let files ← value.required? "files".toList (listOf? text?)
  let first ← value.optionalMember? "first".toList Record.ofJson?
  return ⟨total, phase, byFormat, files, first⟩

def ofText? (t : Text) : Option Summary :=
  (Json.ofText? t).bind ofJson?

end Summary

namespace Settings

def toJson (settings : Settings) : Json :=
  object
    [ (Key.xcodeSentinel.name, string settings.xcodeSentinel),
      (Key.xcodeContextSkip.name, natural settings.xcodeContextSkip),
      (Key.jasmineMaxMessage.name, natural settings.jasmineMaxMessage),
      (Key.jasmineHead.name, natural settings.jasmineHead),
      (Key.jasmineTail.name, natural settings.jasmineTail) ]

/-- Reads settings; what is not there keeps its default, and an array holds no more than there are
keys. -/
def ofJson? : Json → Option Settings
  | array items =>
    if items.length ≤ 5 then read? (fun key => items[key.position]?) text? natural? else none
  | object members => read? (fun key => (object members).member? key.name) text? natural?
  | _ => none

end Settings

end BuildLog
