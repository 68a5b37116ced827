import Storyboard.Json.Basic
import Storyboard.Number.Literal
/-!
# JSON as written

Strict JSON text is read in two steps. The first keeps what a value forgets: repeated
keys, numbers too large for a value, strings with an unpaired surrogate escape,
nesting of any depth. The second, `Written.value?`, gives the value, unless the text
holds something that no value has. A reader of a record with known fields works on
the first form, because it skips unknown fields without asking for their value.
-/

namespace Storyboard

/-- A JSON text as written. A string with an unpaired surrogate escape has no text, and
a number beyond the finite ones has no value. -/
inductive Written where
  | null
  | bool (value : Bool)
  | number (value : Option Number)
  | str (text : Option String)
  | arr (items : List Written)
  | obj (members : List (Option String × Written))

namespace Written

instance : Inhabited Written := ⟨.null⟩

/-- The deepest nesting of arrays and objects that has a value. -/
def greatestDepth : Nat := 127

/-- A number as a JSON value. -/
def ofNumber : Number → Json
  | .int value => .int value
  | .float value => .float value

mutual

/-- The value, if it nests at most `room` levels; of repeated keys the last wins. -/
def value? : Written → (room : Nat) → Option Json
  | null, _ => some .null
  | bool value, _ => some (.bool value)
  | number value, _ => value.map ofNumber
  | str text, _ => text.map .str
  | arr _, 0 => none
  | arr items, room + 1 => (values? items room).map .arr
  | obj _, 0 => none
  | obj members, room + 1 => (fields? members room).map fun fields => .obj (Table.ofList fields)
termination_by structural written => written

@[inherit_doc value?]
def values? : List Written → (room : Nat) → Option (List Json)
  | [], _ => some []
  | item :: rest, room =>
    match item.value? room, values? rest room with
    | some value, some values => some (value :: values)
    | _, _ => none
termination_by structural items => items

@[inherit_doc value?]
def fields? : List (Option String × Written) → (room : Nat) → Option (List (String × Json))
  | [], _ => some []
  | (key, item) :: rest, room =>
    match key, item.value? room, fields? rest room with
    | some key, some value, some fields => some ((key, value) :: fields)
    | _, _, _ => none
termination_by structural members => members

end

mutual

/-- A value in written form. -/
def ofJson : Json → Written
  | .null => null
  | .bool value => bool value
  | .int value => number (some (.int value))
  | .float value => number (some (.float value))
  | .str text => str (some text)
  | .arr items => arr (ofItems items)
  | .obj fields => obj (ofFields fields)
termination_by structural value => value

@[inherit_doc ofJson]
def ofItems : List Json → List Written
  | [] => []
  | item :: rest => ofJson item :: ofItems rest
termination_by structural items => items

@[inherit_doc ofJson]
def ofFields : List (String × Json) → List (Option String × Written)
  | [] => []
  | (key, value) :: rest => (some key, ofJson value) :: ofFields rest
termination_by structural fields => fields

end

end Written

end Storyboard
