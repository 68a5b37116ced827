import Storyboard.Json.Record
/-!
# Messages

What the engine tells the renderer: that the current screen is another one, which session
keys were written, that the session was emptied, and what a developer should hear of.
-/

namespace Storyboard

/-- How grave a diagnostic is. -/
inductive Level where
  | info
  | warning
  | error
deriving DecidableEq, Repr

/-- A message from the engine to the renderer. -/
inductive Message where
  | screenChanged (flow screen : String)
  | sessionUpdated (keys : List String)
  | sessionCleared
  | diagnostic (level : Level) (text : String)
deriving DecidableEq, Repr

namespace Level

/-- The name of a level. -/
def name : Level → String
  | info => "info"
  | warning => "warning"
  | error => "error"

/-- The level of a name. -/
def ofName? (name : String) : Option Level :=
  if name = "info" then some info
  else if name = "warning" then some warning
  else if name = "error" then some error
  else none

/-- A level as written. -/
def ofWritten? (written : Written) : Option Level :=
  written.name?.bind ofName?

/-- A level as written in a field of a message, where an empty object may stand for
`null`. -/
def ofField? : Written → Option Level
  | .obj [(some name, .obj [])] => ofName? name
  | written => ofWritten? written

end Level

namespace Message

/-- Whether the renderer has to draw the current screen again. -/
def requiresRender : Message → Bool
  | diagnostic .. => false
  | _ => true

/-- A message as an object. -/
def toJson : Message → Json
  | screenChanged flow screen =>
    .obj [("flow_id", .str flow), ("screen_id", .str screen), ("type", .str "screen_changed")]
  | sessionUpdated keys =>
    .obj [("keys", .arr (keys.map .str)), ("type", .str "session_updated")]
  | sessionCleared => .obj [("type", .str "session_cleared")]
  | diagnostic level text =>
    .obj [("level", .str level.name), ("message", .str text), ("type", .str "diagnostic")]

/-- Several texts. -/
def texts? : Written → Option (List String)
  | .arr items => items.mapM Written.text?
  | _ => none

/-- The message of a tag and the record behind it. -/
def ofTagged? (tag : String) (record : Written) : Option Message := do
  if tag = "screen_changed" then
    match ← record.record? ["flow_id", "screen_id"] with
    | [some flow, some screen] => return screenChanged (← flow.text?) (← screen.text?)
    | _ => none
  else if tag = "session_updated" then
    match ← record.record? ["keys"] with
    | [some keys] => return sessionUpdated (← texts? keys)
    | _ => none
  else if tag = "session_cleared" then
    if record.isBare then return sessionCleared else none
  else if tag = "diagnostic" then
    match ← record.record? ["level", "message"] with
    | [some level, some text] => return diagnostic (← Level.ofField? level) (← text.text?)
    | _ => none
  else none

/-- A message as written. -/
def ofWritten? (written : Written) : Option Message := do
  let (tag, record) ← written.tagged? "type"
  ofTagged? tag record

end Message

end Storyboard
