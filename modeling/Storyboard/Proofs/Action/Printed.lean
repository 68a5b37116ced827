import Storyboard.Action.Printer
import Storyboard.Action.Record
/-!
# The fields of a printed action

An action is printed with its tag, the fields of its payload and those of its continuations. No
two of them have the same key, so each is found under its own.

Main results: `get?_ofList_printed`, `get?_onSuccess_printed` and `get?_onError_printed`.
-/

namespace Storyboard

namespace Action

variable {action : Action} {onSuccess onError : Option Json}

/-- The fields of an action's payload, in the order of their declaration. -/
def payloadFields : Action → List (String × Json)
  | navigate screen => [("screen", .str screen)]
  | navigateToFlow flow screen data =>
    [("targetFlow", .str flow), ("targetScreen", .str screen)] ++
      optionalField "data" (data.map .obj)
  | setState updates => [("updates", .obj updates)]
  | apiCall method endpoint headers body =>
    [("method", .str method.name), ("endpoint", .str endpoint)] ++
      (optionalField "headers" (headers.map .obj) ++ optionalField "body" body)
  | custom handler parameters =>
    ("handler", .str handler) :: optionalField "parameters" (parameters.map .obj)
  | goBack steps clearData => [("steps", .int steps), ("clearData", .bool clearData)]
  | executeCallback name params =>
    ("callbackName", .str name) :: optionalField "params" (params.map .obj)

/-- What is printed of an action with continuations, in the order of declaration. -/
def printed (action : Action) (onSuccess onError : Option Json) : List (String × Json) :=
  ("action", .str action.tag) :: (action.payloadFields ++
    (optionalField "onSuccess" onSuccess ++ optionalField "onError" onError))

theorem toFields_eq (action : Action) :
    action.toFields = Table.ofList (("action", .str action.tag) :: action.payloadFields) := by
  cases action <;> rfl

theorem withContinuations_eq (action : Action) (onSuccess onError : Option Json) :
    action.withContinuations onSuccess onError =
      .obj (Table.ofList (action.printed onSuccess onError)) := by
  rw [withContinuations, toFields_eq, printed, ← List.cons_append]
  simp only [Table.ofList, Table.putAll, List.foldl_append]

theorem toJson_eq (action : Action) : action.toJson = action.withContinuations none none := rfl

theorem keys_optionalField_sublist (field : String) (value : Option Json) :
    (Table.keys (optionalField field value)).Sublist [field] := by
  cases value with
  | none => exact List.nil_sublist _
  | some value => exact List.Sublist.refl _

theorem keys_payloadFields_sublist (action : Action) :
    (Table.keys action.payloadFields).Sublist (fieldNames action.tag) := by
  cases action with
  | navigate | setState | goBack => exact List.Sublist.refl _
  | navigateToFlow flow screen data =>
      exact ((keys_optionalField_sublist "data" _).cons_cons _).cons_cons _
  | apiCall method endpoint headers body =>
      have optional := (keys_optionalField_sublist "headers" (headers.map .obj)).append
        (keys_optionalField_sublist "body" body)
      rw [← Table.keys_append] at optional
      exact (optional.cons_cons _).cons_cons _
  | custom | executeCallback => exact (keys_optionalField_sublist _ _).cons_cons _

theorem nodup_fieldNames (tag : String) :
    ("action" :: (fieldNames tag ++ (["onSuccess"] ++ ["onError"]))).Nodup := by
  unfold fieldNames
  repeat' split
  all_goals decide

theorem nodup_keys_printed (action : Action) (onSuccess onError : Option Json) :
    (Table.keys (action.printed onSuccess onError)).Nodup := by
  apply List.Sublist.nodup _ (nodup_fieldNames action.tag)
  rw [printed, Table.keys, List.map_cons]
  apply List.Sublist.cons_cons
  change (Table.keys _).Sublist _
  rw [Table.keys_append, Table.keys_append]
  apply (keys_payloadFields_sublist action).append
  exact (keys_optionalField_sublist _ _).append (keys_optionalField_sublist _ _)

/-- What a printed action has under a key. -/
theorem get?_ofList_printed (action : Action) (onSuccess onError : Option Json) (key : String) :
    Table.get? (Table.ofList (action.printed onSuccess onError)) key =
      Table.get? (action.printed onSuccess onError) key :=
  Table.get?_ofList (nodup_keys_printed action onSuccess onError) key

theorem get?_optionalField (field : String) (value : Option Json) (key : String) :
    Table.get? (optionalField field value) key = if field = key then value else none := by
  cases value with
  | none => simp [optionalField]
  | some value => simp [optionalField, Table.get?_cons]

theorem get?_onSuccess_printed (action : Action) (onSuccess onError : Option Json) :
    (Table.ofList (action.printed onSuccess onError)).get? "onSuccess" = onSuccess := by
  rw [get?_ofList_printed, printed]
  cases action <;> simp [payloadFields, Table.get?_cons, Table.get?_append, get?_optionalField]

theorem get?_onError_printed (action : Action) (onSuccess onError : Option Json) :
    (Table.ofList (action.printed onSuccess onError)).get? "onError" = onError := by
  rw [get?_ofList_printed, printed]
  cases action <;> simp [payloadFields, Table.get?_cons, Table.get?_append, get?_optionalField]

end Action

end Storyboard
