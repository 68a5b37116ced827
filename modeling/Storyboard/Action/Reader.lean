import Storyboard.Action.Basic
import Storyboard.Action.Payload
import Storyboard.Fault
/-!
# Reading actions

A trigger is declared as an object or as an array of objects. The whole tree is read
before any of it runs, so a defect anywhere in it refuses all of it. The first defect is
reported: the shape of the root, then the tag, the subtree for success, the subtree for
failure and last the payload; in a list, from left to right. In a payload, values of a
wrong type are reported before missing fields, the former by ascending key, the latter
in the order of declaration.
-/

namespace Storyboard

namespace Action

/-- The complaint about a declaration as a whole. -/
def complaint (field reason : String) : Fault :=
  .malformed "action" field reason

/-- The tag of a declaration. -/
def readTag (fields : Fields) : Except Fault String :=
  match fields.get? "action" with
  | some (.str tag) =>
    if tag ∈ tags then .ok tag
    else .error (complaint "action" ("has unknown kind \"" ++ tag ++ "\""))
  | some _ => .error (complaint "action" "must be a string")
  | none => .error (complaint "action" "is missing")

section Payloads

open Payload

@[inherit_doc navigate]
def readNavigate (fields : Fields) : Except Defect Action := do
  let screen ← read text fields "screen"
  return .navigate (← require "screen" screen)

@[inherit_doc navigateToFlow]
def readNavigateToFlow (fields : Fields) : Except Defect Action := do
  let data ← readOptional table fields "data"
  let flow ← read text fields "targetFlow"
  let screen ← read text fields "targetScreen"
  let flow ← require "targetFlow" flow
  let screen ← require "targetScreen" screen
  return .navigateToFlow flow screen data

@[inherit_doc setState]
def readSetState (fields : Fields) : Except Defect Action := do
  let updates ← read table fields "updates"
  return .setState (← require "updates" updates)

@[inherit_doc apiCall]
def readApiCall (fields : Fields) : Except Defect Action := do
  let body ← readOptional any fields "body"
  let endpoint ← read text fields "endpoint"
  let headers ← readOptional table fields "headers"
  let method ← read method fields "method"
  let method ← require "method" method
  let endpoint ← require "endpoint" endpoint
  return .apiCall method endpoint headers body

@[inherit_doc custom]
def readCustom (fields : Fields) : Except Defect Action := do
  let handler ← read text fields "handler"
  let parameters ← readOptional table fields "parameters"
  return .custom (← require "handler" handler) parameters

@[inherit_doc goBack]
def readGoBack (fields : Fields) : Except Defect Action := do
  let clearData ← read flag fields "clearData"
  let steps ← read count fields "steps"
  return .goBack (steps.getD 1) (clearData.getD false)

@[inherit_doc executeCallback]
def readExecuteCallback (fields : Fields) : Except Defect Action := do
  let name ← read text fields "callbackName"
  let params ← readOptional table fields "params"
  return .executeCallback (← require "callbackName" name) params

end Payloads

/-- The action that a tag and the fields of a payload declare; the tag is one of `tags`. -/
def readPayload (tag : String) (fields : Fields) : Except Defect Action :=
  if tag = "navigate" then readNavigate fields
  else if tag = "navigateToFlow" then readNavigateToFlow fields
  else if tag = "setState" then readSetState fields
  else if tag = "apiCall" then readApiCall fields
  else if tag = "custom" then readCustom fields
  else if tag = "goBack" then readGoBack fields
  else readExecuteCallback fields

/-- A defect of a payload as a fault of the action. -/
def defectFault (tag : String) : Defect → Fault
  | .refused reason => .malformed (tag ++ " action") "<payload>" reason
  | .missing field => .malformed (tag ++ " action") field "is missing"

/-- The action that an object declares, continuations aside. -/
def ofFields (tag : String) (fields : Fields) : Except Fault Action :=
  (readPayload tag fields).mapError (defectFault tag)

end Action

/-- The descriptor of an object, given what its fields for continuations declare. -/
def Descriptor.ofParts (fields : Fields) (onSuccess onError : Except Fault (Option Trigger)) :
    Except Fault Descriptor := do
  let tag ← Action.readTag fields
  let onSuccess ← onSuccess
  let onError ← onError
  let action ← Action.ofFields tag fields
  return .mk action onSuccess onError

mutual

/-- The trigger that a value declares. -/
def Trigger.ofJson : Json → Except Fault Trigger
  | .arr items => (Descriptor.ofItems items).map .chain
  | .obj fields =>
    (Descriptor.ofParts fields (Trigger.ofField "onSuccess" fields)
      (Trigger.ofField "onError" fields)).map .single
  | _ => .error (.malformed "action trigger" "<root>" "must be an object or an array")
termination_by structural value => value

/-- The descriptors that the items of an array declare. -/
def Descriptor.ofItems : List Json → Except Fault (List Descriptor)
  | [] => .ok []
  | item :: rest => do
    let descriptor ← Descriptor.ofJson item
    let descriptors ← Descriptor.ofItems rest
    return descriptor :: descriptors
termination_by structural items => items

/-- The descriptor that a value declares. -/
def Descriptor.ofJson : Json → Except Fault Descriptor
  | .obj fields =>
    Descriptor.ofParts fields (Trigger.ofField "onSuccess" fields)
      (Trigger.ofField "onError" fields)
  | _ => .error (Action.complaint "<root>" "must be an object")
termination_by structural value => value

/-- The trigger that a field declares, if the field is there. -/
def Trigger.ofField (field : String) : List (String × Json) → Except Fault (Option Trigger)
  | [] => .ok none
  | (key, value) :: rest =>
    if key = field then (Trigger.ofJson value).map some else Trigger.ofField field rest
termination_by structural fields => fields

end

end Storyboard
