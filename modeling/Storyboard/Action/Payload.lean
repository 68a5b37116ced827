import Storyboard.Json.Printer
import Storyboard.Http.Method
import Storyboard.Text.Quoted
/-!
# Fields of a payload

Typed access to the fields of an object. A field may be absent; a value of a wrong type
is refused with a report of what was found and what was expected. Where a field is
optional, `null` stands for its absence.
-/

namespace Storyboard

/-- Why a payload is refused. -/
inductive Defect where
  | refused (reason : String)
  | missing (field : String)
deriving DecidableEq, Repr

namespace Payload

/-- A value as a report names it. -/
def describe : Json → String
  | .null => "null"
  | .bool value => "boolean `" ++ (if value then "true" else "false") ++ "`"
  | .int value => "integer `" ++ toString value ++ "`"
  | .float value => "floating point `" ++ value.text ++ "`"
  | .str text => "string " ++ Text.quoted text
  | .arr _ => "sequence"
  | .obj _ => "map"

/-- The report on a value of a wrong type. -/
def mismatch (found : Json) (expected : String) : Defect :=
  .refused ("invalid type: " ++ describe found ++ ", expected " ++ expected)

/-- The value of a field under a reader of its type; none if the field is absent. -/
def read {α : Type} (reader : Json → Except Defect α) (fields : Fields) (field : String) :
    Except Defect (Option α) :=
  match fields.get? field with
  | none => .ok none
  | some value => (reader value).map some

/-- As `read`, but `null` counts as absent. -/
def readOptional {α : Type} (reader : Json → Except Defect α) (fields : Fields)
    (field : String) : Except Defect (Option α) :=
  match fields.get? field with
  | none | some .null => .ok none
  | some value => (reader value).map some

/-- The value of a field that may not be absent. -/
def require {α : Type} (field : String) : Option α → Except Defect α
  | some value => .ok value
  | none => .error (.missing field)

/-- A text. -/
def text : Json → Except Defect String
  | .str text => .ok text
  | value => .error (mismatch value "a string")

/-- An object. -/
def table : Json → Except Defect Fields
  | .obj fields => .ok fields
  | value => .error (mismatch value "a map")

/-- A truth value. -/
def flag : Json → Except Defect Bool
  | .bool value => .ok value
  | value => .error (mismatch value "a boolean")

/-- A count: an integer that is not negative. -/
def count : Json → Except Defect Nat
  | .int value =>
    if 0 ≤ value then .ok value.toNat
    else .error (.refused ("invalid value: " ++ describe (.int value) ++ ", expected usize"))
  | value => .error (mismatch value "usize")

/-- The name of a method. -/
def method : Json → Except Defect Http.Method
  | .str text =>
    match Http.Method.ofName? text with
    | some method => .ok method
    | none => .error (.refused (Http.Method.unsupported text))
  | value => .error (mismatch value "a string")

/-- Any value. -/
def any (value : Json) : Except Defect Json := .ok value

end Payload

end Storyboard
