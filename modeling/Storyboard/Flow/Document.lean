import Storyboard.Fault
import Storyboard.Json.Reader
/-!
# Flow documents

A flow is one JSON document with an identifier, properties and screens by their
identifiers. What else the document holds is ignored. The first thing that is wrong with
it is reported, in the order root, `type`, `flowId`, `screens`, `properties`.
-/

namespace Storyboard

/-- A set of screens. -/
structure Flow where
  id : String
  properties : Fields
  screens : Fields
deriving DecidableEq

namespace Flow

/-- The value of `type` in every flow document. -/
def marker : String := "flow"

/-- How a report names the flow that was asked for. -/
def subject (id : String) : String := "flow \"" ++ id ++ "\""

/-- Checks that a document says it is a flow. -/
def checkMarker (subject : String) (fields : Fields) : Except Fault Unit :=
  match fields.get? "type" with
  | some value =>
    if value = .str marker then .ok ()
    else .error (.malformed subject "type" ("must be \"" ++ marker ++ "\""))
  | none => .error (.malformed subject "type" "is missing")

/-- The identifier in a document. -/
def readId (subject : String) (fields : Fields) : Except Fault String :=
  match fields.get? "flowId" with
  | some (.str id) =>
    if id = "" then .error (.malformed subject "flowId" "must be a non-empty string")
    else .ok id
  | some _ => .error (.malformed subject "flowId" "must be a non-empty string")
  | none => .error (.malformed subject "flowId" "is missing")

/-- The screens in a document. -/
def readScreens (subject : String) (fields : Fields) : Except Fault Fields :=
  match fields.get? "screens" with
  | some (.obj []) => .error (.malformed subject "screens" "must be a non-empty map")
  | some (.obj screens) => .ok screens
  | some _ => .error (.malformed subject "screens" "must be a non-empty map")
  | none => .error (.malformed subject "screens" "is missing")

/-- The properties in a document; absent or `null`, there are none. -/
def readProperties (subject : String) (fields : Fields) : Except Fault Fields :=
  match fields.get? "properties" with
  | some (.obj properties) => .ok properties
  | some .null | none => .ok []
  | some _ => .error (.malformed subject "properties" "must be an object")

/-- The flow that a document describes; `subject` names it in reports. -/
def ofJson (subject : String) (document : Json) : Except Fault Flow :=
  match document with
  | .obj fields => do
    checkMarker subject fields
    let id ← readId subject fields
    let screens ← readScreens subject fields
    let properties ← readProperties subject fields
    return { id, properties, screens }
  | _ => .error (.malformed subject "<root>" "must be an object")

/-- The flow that a text describes, the identifier naming it in reports. -/
def parse (id text : String) : Except Fault Flow :=
  match Json.parse? text with
  | some document => ofJson (subject id) document
  | none => .error (.malformed (subject id) "<root>" "is not valid JSON")

/-- The flow as a document. -/
def toJson (flow : Flow) : Json :=
  .obj [("flowId", .str flow.id), ("properties", .obj flow.properties),
    ("screens", .obj flow.screens), ("type", .str marker)]

/-- Whether the flow has a screen. -/
def hasScreen (flow : Flow) (screen : String) : Bool := flow.screens.contains screen

/-- A screen of the flow. -/
def screen? (flow : Flow) (screen : String) : Option Json := flow.screens.get? screen

/-- The screen that the properties name as the first, if the flow has it. -/
def namedScreen? (flow : Flow) : Option String :=
  match flow.properties.get? "initialScreen" with
  | some (.str screen) => if flow.hasScreen screen then some screen else none
  | _ => none

/-- The screen to show first: the one that the properties name, else the least one. -/
def initialScreen? (flow : Flow) : Option String :=
  flow.namedScreen? <|> flow.screens.keys.head?

end Flow

end Storyboard
