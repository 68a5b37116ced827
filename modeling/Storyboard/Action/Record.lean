import Storyboard.Action.Reader
import Storyboard.Json.Record
/-!
# Actions as records

An action alone, without continuations, is also read as a record with a tag.
-/

namespace Storyboard

namespace Action

/-- The fields of an action's payload, in the order of their declaration. -/
def fieldNames (tag : String) : List String :=
  if tag = "navigate" then ["screen"]
  else if tag = "navigateToFlow" then ["targetFlow", "targetScreen", "data"]
  else if tag = "setState" then ["updates"]
  else if tag = "apiCall" then ["method", "endpoint", "headers", "body"]
  else if tag = "custom" then ["handler", "parameters"]
  else if tag = "goBack" then ["steps", "clearData"]
  else ["callbackName", "params"]

/-- The fields of a record that have something written for them, by name. -/
def writtenFields? : List String → List (Option Written) → Option (List (String × Json))
  | name :: names, some item :: items => do
    let value ← item.value? Written.fieldDepth
    let rest ← writtenFields? names items
    return (name, value) :: rest
  | _ :: names, none :: items => writtenFields? names items
  | _, _ => some []

/-- An action as written. -/
def ofWritten? (written : Written) : Option Action := do
  let (tag, record) ← written.tagged? "action"
  if tag ∈ tags then
    let names := fieldNames tag
    let items ← record.record? names
    let fields ← writtenFields? names items
    (readPayload tag (Table.ofList fields)).toOption
  else none

end Action

end Storyboard
