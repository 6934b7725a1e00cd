import BuildLog.Text.Basic

/-!
# TOML documents

A document is a tree of tables that is built key by key.  A table remembers how it came to be,
because that decides who may still add to it: a table is stated by at most one header, a table that
dotted keys made is closed to headers, and an inline table is closed to all.
-/

set_option autoImplicit false

namespace BuildLog

inductive Toml.Origin where
  | declared
  /-- The header of a table inside it. -/
  | implied
  /-- A dotted key. -/
  | dotted
  | inline
  deriving DecidableEq

/-- A TOML value.  Floats and dates are kept as they are spelled. -/
inductive Toml where
  | string (t : Text)
  | integer (i : Int)
  | float (spelling : Text)
  | boolean (b : Bool)
  | dateTime (spelling : Text)
  | array (items : List Toml)
  | table (origin : Toml.Origin) (members : List (Text × Toml))
  /-- The tables that headers in double brackets list.  Only the last one can still grow. -/
  | tables (earlier : List Toml) (last : List (Text × Toml))

namespace Toml

abbrev Members := List (Text × Toml)

def member? (name : Text) (members : Members) : Option Toml :=
  (members.find? fun member => member.1 = name).map Prod.snd

/-- Changes the member of a name, or adds one; the change may be refused. -/
def alter (name : Text) (change : Option Toml → Option Toml) : Members → Option Members
  | [] => (change none).map fun value => [(name, value)]
  | (key, value) :: rest =>
    if key = name then (change (some value)).map fun value => (key, value) :: rest
    else (alter name change rest).map ((key, value) :: ·)

/-- Changes the table that a header names, without its last key, from some table on.  Tables on the
way are made when they are missing. -/
def within (change : Members → Option Members) : List Text → Members → Option Members
  | [] => change
  | key :: path =>
    alter key fun
      | none => (within change path []).map (table .implied)
      | some (table .inline _) => none
      | some (table origin members) => (within change path members).map (table origin)
      | some (tables earlier last) => (within change path last).map (tables earlier)
      | some _ => none

/-- Gives a dotted key its value, from some table on.  The key may add to a table that dotted keys
made.  It may pass through a table that is only implied, or through the last table of a list, but
not end in one. -/
def assign (value : Toml) (name : Text) : List Text → Members → Option Members
  | [] =>
    alter name fun
      | none => some value
      | some _ => none
  | key :: path =>
    alter key fun
      | none => (assign value name path []).map (table .dotted)
      | some (table .dotted members) => (assign value name path members).map (table .dotted)
      | some (table .implied members) =>
        if path = [] then none else (assign value name path members).map (table .implied)
      | some (tables earlier last) =>
        if path = [] then none else (assign value name path last).map (tables earlier)
      | some _ => none

def declare (name : Text) : Members → Option Members :=
  alter name fun
    | none => some (table .declared [])
    | some (table .implied members) => some (table .declared members)
    | some _ => none

def append (name : Text) : Members → Option Members :=
  alter name fun
    | none => some (tables [] [])
    | some (tables earlier last) => some (tables (earlier ++ [table .declared last]) [])
    | some _ => none

structure Key where
  path : List Text
  name : Text
  deriving DecidableEq

def Key.steps (key : Key) : List Text :=
  key.path ++ [key.name]

inductive Statement where
  | assignment (key : Key) (value : Toml)
  | header (key : Key)
  | listHeader (key : Key)

/-- A document under construction: the outermost table and where assignments go. -/
structure Draft where
  root : Members := []
  current : List Text := []

def Draft.add (draft : Draft) : Statement → Option Draft
  | .assignment key value =>
    (within (assign value key.name key.path) draft.current draft.root).map
      fun root => { draft with root }
  | .header key =>
    (within (declare key.name) key.path draft.root).map fun root => ⟨root, key.steps⟩
  | .listHeader key =>
    (within (append key.name) key.path draft.root).map fun root => ⟨root, key.steps⟩

def ofStatements? (statements : List Statement) : Option Members :=
  (statements.foldlM Draft.add {}).map Draft.root

def ofBraces? (assignments : List (Key × Toml)) : Option Toml :=
  (assignments.foldlM (fun members entry => assign entry.2 entry.1.name entry.1.path members)
    []).map (table .inline)

end Toml

end BuildLog
