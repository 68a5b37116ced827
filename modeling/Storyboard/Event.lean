import Storyboard.Json.Record
/-!
# Events

What the renderer tells the engine: a control was used, the user went back, a flow wants
to keep some state of its own, the user logs out.
-/

namespace Storyboard

/-- An event from the renderer to the engine. -/
inductive Event where
  /-- A control was used; its action as the screen declares it, and the values of the
  input fields. -/
  | actionTriggered (action : Json) (fields : Fields)
  | backPressed
  | flowStateChanged (flow : String) (state : Json)
  | logoutRequested
deriving DecidableEq

namespace Event

/-- The word that tells events apart. -/
def tag : Event → String
  | actionTriggered .. => "action_triggered"
  | backPressed => "back_pressed"
  | flowStateChanged .. => "flow_state_changed"
  | logoutRequested => "logout_requested"

/-- An event as an object. -/
def toJson (event : Event) : Json :=
  .obj (Table.ofList (("type", .str event.tag) ::
    match event with
    | actionTriggered action fields => [("action", action), ("fields", .obj fields)]
    | flowStateChanged flow state => [("flow_id", .str flow), ("state", state)]
    | backPressed | logoutRequested => []))

/-- The event of a tag and the record behind it. -/
def ofTagged? (tag : String) (record : Written) : Option Event := do
  if tag = "action_triggered" then
    match ← record.record? ["action", "fields"] with
    | [some action, none] => return actionTriggered (← action.value? Written.fieldDepth) []
    | [some action, some fields] =>
      return actionTriggered (← action.value? Written.fieldDepth) (← fields.table?)
    | _ => none
  else if tag = "flow_state_changed" then
    match ← record.record? ["flow_id", "state"] with
    | [some flow, some state] =>
      return flowStateChanged (← flow.text?) (← state.value? Written.fieldDepth)
    | _ => none
  else if tag = "back_pressed" then
    if record.isBare then return backPressed else none
  else if tag = "logout_requested" then
    if record.isBare then return logoutRequested else none
  else none

/-- An event as written. -/
def ofWritten? (written : Written) : Option Event := do
  let (tag, record) ← written.tagged? "type"
  ofTagged? tag record

/-- The event that a value describes. -/
def ofJson? (value : Json) : Option Event := ofWritten? (.ofJson value)

/-- The event that a JSON text describes. -/
def parse? (text : String) : Option Event := (Written.parse? text).bind ofWritten?

/-- The values of input fields that come with the event. -/
def fields : Event → Fields
  | actionTriggered _ fields => fields
  | _ => []

end Event

end Storyboard
