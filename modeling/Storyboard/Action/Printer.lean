import Storyboard.Action.Basic
/-!
# Printing actions

An action is written as an object with its tag and the fields of its payload, defaults
filled in and absent optional fields left out; a descriptor adds its continuations, and
a list of descriptors is an array.
-/

namespace Storyboard

namespace Action

/-- A field that is written only if there is a value. -/
def optionalField (field : String) : Option Json → List (String × Json)
  | some value => [(field, value)]
  | none => []

/-- The fields of an action, its tag included. -/
def toFields (action : Action) : Fields :=
  Table.ofList (("action", .str action.tag) ::
    match action with
    | navigate screen => [("screen", .str screen)]
    | navigateToFlow flow screen data =>
      [("targetFlow", .str flow), ("targetScreen", .str screen)] ++
        optionalField "data" (data.map .obj)
    | setState updates => [("updates", .obj updates)]
    | apiCall method endpoint headers body =>
      [("method", .str method.name), ("endpoint", .str endpoint)] ++
        optionalField "headers" (headers.map .obj) ++ optionalField "body" body
    | custom handler parameters =>
      ("handler", .str handler) :: optionalField "parameters" (parameters.map .obj)
    | goBack steps clearData => [("steps", .int steps), ("clearData", .bool clearData)]
    | executeCallback name params =>
      ("callbackName", .str name) :: optionalField "params" (params.map .obj))

/-- An action as an object. -/
def toJson (action : Action) : Json := .obj action.toFields

/-- The fields of an action together with its continuations. -/
def withContinuations (action : Action) (onSuccess onError : Option Json) : Json :=
  .obj (Table.putAll action.toFields
    (optionalField "onSuccess" onSuccess ++ optionalField "onError" onError))

end Action

mutual

/-- A descriptor as an object. -/
def Descriptor.toJson : Descriptor → Json
  | .mk action onSuccess onError =>
    action.withContinuations
      (match onSuccess with
        | some trigger => some trigger.toJson
        | none => none)
      (match onError with
        | some trigger => some trigger.toJson
        | none => none)
termination_by structural descriptor => descriptor

/-- A trigger as an object or an array of objects. -/
def Trigger.toJson : Trigger → Json
  | .single descriptor => descriptor.toJson
  | .chain descriptors => .arr (Descriptor.toItems descriptors)
termination_by structural trigger => trigger

/-- Descriptors as the items of an array. -/
def Descriptor.toItems : List Descriptor → List Json
  | [] => []
  | descriptor :: rest => descriptor.toJson :: Descriptor.toItems rest
termination_by structural descriptors => descriptors

end

end Storyboard
