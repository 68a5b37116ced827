import Storyboard.Toml.Value
/-!
# Assembling a document

A document is a sequence of statements: headers, and values for keys below the latest
header. No key gets two values, no table two headers, and keys with dots add to no table
that was written otherwise.

Main definitions: `assign?` gives a value to a path of keys, `document?` assembles all
statements.
-/

namespace Storyboard

namespace Toml

/-- What leads through tables: a header or a key with dots. -/
inductive Way where
  | header
  | dotted
deriving DecidableEq, Repr

namespace Way

/-- The origin of a table that a way leads through first. -/
def origin : Way → Origin
  | header => .passing
  | dotted => .dotted

/-- Whether a way may lead through a table. -/
def enters : Way → Origin → Bool
  | header, origin => origin != .braces
  | dotted, origin => origin == .passing || origin == .dotted

end Way

/-- Changes the table that a path leads to. Tables on the way that are not there yet come
to be; of tables under repeated headers the latest is meant. -/
def alter? (way : Way) (change : Origin → Members → Option Members) :
    Path → Origin → Members → Option Members
  | [], origin, members => change origin members
  | key :: rest, _, members =>
    match members.get? key with
    | none =>
      (alter? way change rest way.origin []).map fun inner =>
        members.put key (.table way.origin inner)
    | some (.table origin inner) =>
      if way.enters origin then
        (alter? way change rest origin inner).map fun inner =>
          members.put key (.table origin inner)
      else none
    | some (.tables (latest :: earlier)) =>
      (alter? way change rest .header latest).map fun latest =>
        members.put key (.tables (latest :: earlier))
    | some _ => none

/-- Gives a value to a key of a table that has no such key. -/
def insert? (key : String) (value : Value) (members : Members) : Option Members :=
  if members.contains key then none else some (members.put key value)

/-- Gives a value to a path of keys below a table. A path of several keys ends in a table
that such paths made. -/
def assign? (members : Members) (path : Path) (value : Value) : Option Members :=
  match path.getLast? with
  | none => none
  | some key =>
    let way := path.dropLast
    alter? .dotted
      (fun origin members =>
        if way.isEmpty || origin == .dotted then insert? key value members else none)
      way .header members

/-- Gives values to paths one after another. -/
def assignAll? (members : Members) : List (Path × Value) → Option Members
  | [] => some members
  | (path, value) :: rest => (assign? members path value).bind (assignAll? · rest)

/-- A statement of a document. -/
inductive Statement where
  /-- A header of a table. -/
  | table (path : Path)
  /-- A header in double brackets: one more table under the same name. -/
  | element (path : Path)
  /-- A value for a path below the latest header. -/
  | assign (path : Path) (value : Value)

/-- A document in the making. -/
structure Draft where
  root : Members := []
  /-- The path of the latest header. -/
  place : Path := []

namespace Draft

/-- A table comes under its own header. It may be there only as one that a header led
through. -/
def openTable? (key : String) (members : Members) : Option Members :=
  match members.get? key with
  | none => some (members.put key (.table .header []))
  | some (.table .passing inner) => some (members.put key (.table .header inner))
  | some _ => none

/-- One more table comes under a repeated header. -/
def openElement? (key : String) (members : Members) : Option Members :=
  match members.get? key with
  | none => some (members.put key (.tables [[]]))
  | some (.tables elements) => some (members.put key (.tables ([] :: elements)))
  | some _ => none

/-- A header comes next. -/
def open? (draft : Draft) (path : Path) (add : String → Members → Option Members) :
    Option Draft := do
  let key ← path.getLast?
  let root ← alter? .header (fun _ => add key) path.dropLast .header draft.root
  return ⟨root, path⟩

/-- A statement comes next. -/
def add? (draft : Draft) : Statement → Option Draft
  | .table path => draft.open? path openTable?
  | .element path => draft.open? path openElement?
  | .assign path value =>
    (alter? .header (fun _ members => assign? members path value) draft.place .header
      draft.root).map ({ draft with root := · })

end Draft

/-- The root table of the document that statements make. -/
def document? (statements : List Statement) : Option Members :=
  (statements.foldlM Draft.add? {}).map (·.root)

end Toml

end Storyboard
