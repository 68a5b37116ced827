import Storyboard.Proofs.Action.Grammar
import Storyboard.Proofs.Action.Printed
import Storyboard.Proofs.Run.Basic
import Storyboard.Proofs.Template.Tree
/-!
# Reading what was printed

Printing leaves out what is absent, and reading takes a `null` for absent. So an action is read
back as it was unless it is a request with `null` for its body. Reading gives no request such a
body, and neither does resolution, since no reference stands for `null`.

Main results: `ofJson_toJson_iff` and `ofJson_toJson_resolve`.
-/

namespace Storyboard

namespace Action

open Payload

variable {action : Action} {onSuccess onError : Option Json} {tag : String} {fields : Fields}

/-- Whether an action says the same when a `null` is as good as nothing. -/
def Legible : Action → Prop
  | apiCall _ _ _ body => body ≠ some .null
  | _ => True

/-! ### Payloads -/

theorem read_of_get? {α : Type} (reader : Json → Except Defect α) {field : String} {value : Json}
    {result : α} (found : fields.get? field = some value) (reads : reader value = .ok result) :
    Payload.read reader fields field = .ok (some result) := by
  rw [Payload.read, found]
  simp only [reads, Except.map]

theorem readOptional_table {field : String} {data : Option Fields}
    (found : fields.get? field = data.map .obj) :
    readOptional table fields field = .ok data := by
  cases data with
  | none => simp [readOptional, found]
  | some entries => simp [readOptional, found, table, Except.map]

theorem readOptional_any {field : String} {body : Option Json}
    (found : fields.get? field = body) (legible : body ≠ some .null) :
    readOptional any fields field = .ok body := by
  cases body with
  | none => simp [readOptional, found]
  | some value =>
      cases value with
      | null => exact (legible rfl).elim
      | _ => simp [readOptional, found, any, Except.map]

theorem readPayload_printed (legible : action.Legible) (onSuccess onError : Option Json) :
    readPayload action.tag (Table.ofList (action.printed onSuccess onError)) = .ok action := by
  have found := get?_ofList_printed action onSuccess onError
  generalize Table.ofList (action.printed onSuccess onError) = fields at found
  simp only [printed, Table.get?_cons, Table.get?_append, get?_optionalField] at found
  cases action with
  | navigate screen =>
      have isScreen : fields.get? "screen" = some (.str screen) := by
        simp [found, payloadFields, Table.get?_cons]
      change readNavigate fields = _
      rw [readNavigate, read_of_get? text isScreen rfl]
      rfl
  | navigateToFlow flow screen data =>
      have isFlow : fields.get? "targetFlow" = some (.str flow) := by
        simp [found, payloadFields, Table.get?_cons]
      have isScreen : fields.get? "targetScreen" = some (.str screen) := by
        simp [found, payloadFields, Table.get?_cons]
      have isData : fields.get? "data" = data.map .obj := by
        simp [found, payloadFields, Table.get?_cons, get?_optionalField]
      change readNavigateToFlow fields = _
      rw [readNavigateToFlow, readOptional_table isData, read_of_get? text isFlow rfl,
        read_of_get? text isScreen rfl]
      rfl
  | setState updates =>
      have isUpdates : fields.get? "updates" = some (.obj updates) := by
        simp [found, payloadFields, Table.get?_cons]
      change readSetState fields = _
      rw [readSetState, read_of_get? table isUpdates rfl]
      rfl
  | apiCall verb endpoint headers body =>
      have isMethod : fields.get? "method" = some (.str verb.name) := by
        simp [found, payloadFields, Table.get?_cons]
      have isEndpoint : fields.get? "endpoint" = some (.str endpoint) := by
        simp [found, payloadFields, Table.get?_cons]
      have isHeaders : fields.get? "headers" = headers.map .obj := by
        simp [found, payloadFields, Table.get?_cons, Table.get?_append, get?_optionalField]
      have isBody : fields.get? "body" = body := by
        simp [found, payloadFields, Table.get?_cons, Table.get?_append, get?_optionalField]
      have isVerb : method (.str verb.name) = .ok verb := by
        simp only [method, Http.Method.ofName?_name]
      change readApiCall fields = _
      rw [readApiCall, readOptional_any isBody legible, read_of_get? text isEndpoint rfl,
        readOptional_table isHeaders, read_of_get? method isMethod isVerb]
      rfl
  | custom handler parameters =>
      have isHandler : fields.get? "handler" = some (.str handler) := by
        simp [found, payloadFields, Table.get?_cons]
      have isParameters : fields.get? "parameters" = parameters.map .obj := by
        simp [found, payloadFields, Table.get?_cons, get?_optionalField]
      change readCustom fields = _
      rw [readCustom, read_of_get? text isHandler rfl, readOptional_table isParameters]
      rfl
  | goBack steps clearData =>
      have isSteps : fields.get? "steps" = some (.int steps) := by
        simp [found, payloadFields, Table.get?_cons]
      have isFlag : fields.get? "clearData" = some (.bool clearData) := by
        simp [found, payloadFields, Table.get?_cons]
      have isCount : count (.int steps) = .ok steps := by
        simp [count]
      change readGoBack fields = _
      rw [readGoBack, read_of_get? flag isFlag rfl, read_of_get? count isSteps isCount]
      rfl
  | executeCallback name params =>
      have isName : fields.get? "callbackName" = some (.str name) := by
        simp [found, payloadFields, Table.get?_cons]
      have isParams : fields.get? "params" = params.map .obj := by
        simp [found, payloadFields, Table.get?_cons, get?_optionalField]
      change readExecuteCallback fields = _
      rw [readExecuteCallback, read_of_get? text isName rfl, readOptional_table isParams]
      rfl

/-! ### What is read is legible -/

/-- What comes out, if anything does, has a property. -/
def Ensures {ε α : Type} (property : α → Prop) (result : Except ε α) : Prop :=
  ∀ value, result = .ok value → property value

namespace Ensures

variable {ε ε' α β : Type} {property : β → Prop} {given : α → Prop} {result : Except ε α}
  {next : α → Except ε β}

theorem ok {value : β} (holds : property value) : Ensures property (.ok value : Except ε β) := by
  intro other same
  cases same
  exact holds

theorem error (fault : ε) : Ensures property (.error fault : Except ε β) := nofun

theorem bind (first : Ensures given result) (goesOn : ∀ value, given value →
    Ensures property (next value)) : Ensures property (result >>= next) := by
  cases result with
  | error fault => exact error fault
  | ok value => exact goesOn value (first value rfl)

theorem skip (goesOn : ∀ value, Ensures property (next value)) :
    Ensures property (result >>= next) :=
  bind (fun _ _ => trivial) fun value _ => goesOn value

theorem map {f : α → β} (first : Ensures (fun value => property (f value)) result) :
    Ensures property (result.map f) := by
  cases result with
  | error fault => exact error fault
  | ok value => exact ok (first value rfl)

theorem mapError {f : ε → ε'} (first : Ensures given result) :
    Ensures given (result.mapError f) := by
  cases result with
  | error fault => exact error (f fault)
  | ok value => exact ok (first value rfl)

end Ensures

/-- A field of any value is read as absent if it holds `null`. -/
theorem readOptional_any_ensures (fields : Fields) (field : String) :
    Ensures (· ≠ some .null) (readOptional any fields field) := by
  unfold readOptional
  split
  · exact .ok nofun
  · exact .ok nofun
  · rename_i value noNull _
    apply Ensures.ok
    intro isNull
    exact noNull (Option.some.inj isNull)

theorem readApiCall_ensures (fields : Fields) : Ensures Legible (readApiCall fields) := by
  refine .bind (readOptional_any_ensures fields "body") ?_
  intro body present
  exact .skip fun _ => .skip fun _ => .skip fun _ => .skip fun _ => .skip fun _ => .ok present

theorem readPayload_ensures (tag : String) (fields : Fields) :
    Ensures Legible (readPayload tag fields) := by
  unfold readPayload
  split_ifs
  · exact .skip fun _ => .skip fun _ => .ok trivial
  · exact .skip fun _ => .skip fun _ => .skip fun _ => .skip fun _ => .skip fun _ => .ok trivial
  · exact .skip fun _ => .skip fun _ => .ok trivial
  · exact readApiCall_ensures fields
  · exact .skip fun _ => .skip fun _ => .skip fun _ => .ok trivial
  · exact .skip fun _ => .skip fun _ => .ok trivial
  · exact .skip fun _ => .skip fun _ => .skip fun _ => .ok trivial

theorem Legible.resolve (legible : action.Legible) (scopes : Scopes) :
    (action.resolve scopes).Legible := by
  cases action with
  | apiCall method endpoint headers body =>
      cases body with
      | none => exact nofun
      | some value =>
          -- No reference stands for `null`, so a body that is there does not go away.
          intro isNull
          apply Json.resolveTree_ne_null _ (Option.some.inj isNull)
          rintro rfl
          exact legible rfl
  | _ => trivial

end Action

open Storyboard.Action

/-! ### Printed trees -/

mutual

/-- Every action of the trigger is legible. -/
inductive Trigger.Legible : Trigger → Prop where
  | single {descriptor : Descriptor} (legible : descriptor.Legible) :
      Trigger.Legible (.single descriptor)
  | chain {descriptors : List Descriptor}
      (legible : ∀ descriptor ∈ descriptors, descriptor.Legible) :
      Trigger.Legible (.chain descriptors)

/-- The action of the descriptor and all those of its continuations are legible. -/
inductive Descriptor.Legible : Descriptor → Prop where
  | intro {descriptor : Descriptor} (own : descriptor.action.Legible)
      (later : ∀ edge next, descriptor.next? edge = some next → next.Legible) :
      Descriptor.Legible descriptor

end

theorem Descriptor.toJson_eq (descriptor : Descriptor) :
    descriptor.toJson = .obj (Table.ofList (descriptor.action.printed
      (descriptor.onSuccess.map Trigger.toJson) (descriptor.onError.map Trigger.toJson))) := by
  rw [← withContinuations_eq]
  rcases descriptor with ⟨action, _ | onSuccess, _ | onError⟩ <;> rfl

theorem Trigger.ofField_eq (field : String) (fields : Fields) :
    Trigger.ofField field fields =
      match fields.get? field with
      | some value => (Trigger.ofJson value).map some
      | none => .ok none := by
  induction fields with
  | nil => rfl
  | cons entry rest ih =>
      rw [Trigger.ofField, Table.get?_cons, ih]
      split
      · rfl
      · rfl

theorem Trigger.ofField_of_get? {field : String} {fields : Fields} {trigger : Option Trigger}
    (found : fields.get? field = trigger.map Trigger.toJson)
    (reads : ∀ next, trigger = some next → Trigger.ofJson next.toJson = .ok next) :
    Trigger.ofField field fields = .ok trigger := by
  rw [Trigger.ofField_eq, found]
  cases trigger with
  | none => rfl
  | some next => simp only [Option.map_some, reads next rfl, Except.map]

theorem Action.readTag_printed (action : Action) (onSuccess onError : Option Json) :
    readTag (Table.ofList (action.printed onSuccess onError)) = .ok action.tag := by
  apply readTag_eq_ok_iff.2
  constructor
  · rw [get?_ofList_printed, printed, Table.get?_cons, if_pos rfl]
  · cases action <;> simp [tag, tags]

/-- A descriptor is read back if its action is legible and its continuations are read back. -/
theorem Descriptor.ofJson_toJson_of_next {descriptor : Descriptor}
    (legible : descriptor.action.Legible)
    (reads : ∀ edge next, descriptor.next? edge = some next →
      Trigger.ofJson next.toJson = .ok next) :
    Descriptor.ofJson descriptor.toJson = .ok descriptor := by
  rcases descriptor with ⟨action, onSuccess, onError⟩
  have tag := readTag_printed action (onSuccess.map Trigger.toJson) (onError.map Trigger.toJson)
  have success := Trigger.ofField_of_get? (get?_onSuccess_printed action
    (onSuccess.map Trigger.toJson) (onError.map Trigger.toJson)) (reads .onSuccess)
  have failure := Trigger.ofField_of_get? (get?_onError_printed action
    (onSuccess.map Trigger.toJson) (onError.map Trigger.toJson)) (reads .onError)
  have payload := readPayload_printed legible (onSuccess.map Trigger.toJson)
    (onError.map Trigger.toJson)
  rw [Descriptor.toJson_eq, Descriptor.ofJson]
  simp only [Descriptor.action, Descriptor.onSuccess, Descriptor.onError] at payload ⊢
  rw [success, failure, Descriptor.ofParts, tag]
  simp only [ofFields, payload, bind, Except.bind, Except.mapError, pure, Except.pure]

theorem Trigger.ofJson_obj (fields : Fields) :
    Trigger.ofJson (.obj fields) = (Descriptor.ofJson (.obj fields)).map .single := rfl

/-- Printing a legible tree and reading it gives it back. -/
theorem ofJson_toJson_cases :
    TreeCases (fun descriptor => descriptor.Legible →
        Descriptor.ofJson descriptor.toJson = .ok descriptor)
      (fun trigger => trigger.Legible → Trigger.ofJson trigger.toJson = .ok trigger)
      (fun descriptors => (∀ descriptor ∈ descriptors, descriptor.Legible) →
        Descriptor.ofItems (Descriptor.toItems descriptors) = .ok descriptors) where
  descriptor := by
    rintro descriptor ih ⟨own, later⟩
    apply Descriptor.ofJson_toJson_of_next own
    intro edge next goesOn
    exact ih edge next goesOn (later edge next goesOn)
  single := by
    rintro descriptor ih ⟨legible⟩
    have read := ih legible
    rw [Trigger.toJson]
    -- A trigger is told from its shape, so what was printed has to be seen to be an object.
    rw [Descriptor.toJson_eq] at read ⊢
    rw [Trigger.ofJson_obj, read]
    rfl
  chain := by
    rintro descriptors ih (_ | legible)
    rw [Trigger.toJson, Trigger.ofJson, ih legible]
    rfl
  nil := fun _ => rfl
  cons := by
    intro descriptor rest first later legible
    obtain ⟨head, tail⟩ := List.forall_mem_cons.1 legible
    rw [Descriptor.toItems, Descriptor.ofItems, first head, later tail]
    rfl

/-! ### Trees that are read -/

theorem Descriptor.ofParts_ensures {fields : Fields}
    {onSuccess onError : Except Fault (Option Trigger)}
    (success : Ensures (fun trigger => ∀ next, trigger = some next → next.Legible) onSuccess)
    (failure : Ensures (fun trigger => ∀ next, trigger = some next → next.Legible) onError) :
    Ensures Descriptor.Legible (Descriptor.ofParts fields onSuccess onError) := by
  refine .skip fun tag => .bind success fun onSuccess successes => .bind failure ?_
  intro onError failures
  refine .bind (readPayload_ensures tag fields).mapError ?_
  intro action legible
  refine .ok (.intro legible ?_)
  intro edge next goesOn
  cases edge with
  | onSuccess => exact successes next goesOn
  | onError => exact failures next goesOn
  | item index => cases goesOn

theorem Trigger.ofField_ensures (field : String) {fields : Fields}
    (reads : ∀ key value, (key, value) ∈ fields →
      Ensures Trigger.Legible (Trigger.ofJson value)) :
    Ensures (fun trigger => ∀ next, trigger = some next → next.Legible)
      (Trigger.ofField field fields) := by
  rw [Trigger.ofField_eq]
  split
  · rename_i value found
    apply Ensures.map
    intro trigger read next same
    cases same
    exact reads field value (Table.mem_of_get? found) trigger read
  · exact .ok nofun

theorem Descriptor.ofItems_ensures {items : List Json}
    (reads : ∀ item ∈ items, Ensures Descriptor.Legible (Descriptor.ofJson item)) :
    Ensures (fun descriptors => ∀ descriptor ∈ descriptors, descriptor.Legible)
      (Descriptor.ofItems items) := by
  induction items with
  | nil => exact .ok nofun
  | cons item rest ih =>
      obtain ⟨first, later⟩ := List.forall_mem_cons.1 reads
      refine .bind first fun descriptor head => .bind (ih later) fun descriptors tail => .ok ?_
      exact List.forall_mem_cons.2 ⟨head, tail⟩

/-- What is read is legible, as a descriptor and as a trigger. -/
theorem ofJson_ensures (value : Json) :
    Ensures Descriptor.Legible (Descriptor.ofJson value) ∧
      Ensures Trigger.Legible (Trigger.ofJson value) := by
  induction value using Json.induction with
  | arr items ih =>
      refine ⟨.error _, ?_⟩
      apply Ensures.map
      intro descriptors read
      exact .chain (Descriptor.ofItems_ensures (fun item member => (ih item member).1)
        descriptors read)
  | obj fields ih =>
      have field (name : String) := Trigger.ofField_ensures name fun key value member =>
        (ih key value member).2
      have descriptor : Ensures Descriptor.Legible (Descriptor.ofJson (.obj fields)) :=
        Descriptor.ofParts_ensures (field "onSuccess") (field "onError")
      refine ⟨descriptor, ?_⟩
      apply Ensures.map
      intro tree read
      exact .single (descriptor tree read)
  | _ => exact ⟨.error _, .error _⟩

/-! ### Resolved trees -/

theorem Descriptor.next?_resolve (descriptor : Descriptor) (scopes : Scopes) (edge : Engine.Edge) :
    (descriptor.resolve scopes).next? edge =
      (descriptor.next? edge).map (Trigger.resolve scopes) := by
  rcases descriptor with ⟨action, _ | onSuccess, _ | onError⟩ <;> cases edge <;> rfl

theorem Descriptor.action_resolve (descriptor : Descriptor) (scopes : Scopes) :
    (descriptor.resolve scopes).action = descriptor.action.resolve scopes := by
  cases descriptor
  rfl

theorem legible_resolve_cases (scopes : Scopes) :
    TreeCases (fun descriptor => descriptor.Legible → (descriptor.resolve scopes).Legible)
      (fun trigger => trigger.Legible → (trigger.resolve scopes).Legible)
      (fun descriptors => (∀ descriptor ∈ descriptors, descriptor.Legible) →
        ∀ descriptor ∈ Descriptor.resolveAll scopes descriptors, descriptor.Legible) where
  descriptor := by
    rintro descriptor ih ⟨own, later⟩
    constructor
    · rw [Descriptor.action_resolve]
      exact own.resolve scopes
    · intro edge next goesOn
      rw [Descriptor.next?_resolve] at goesOn
      obtain ⟨before, found, rfl⟩ := Option.map_eq_some_iff.1 goesOn
      exact ih edge before found (later edge before found)
  single := by
    rintro descriptor ih ⟨legible⟩
    exact .single (ih legible)
  chain := by
    rintro descriptors ih (_ | legible)
    exact .chain (ih legible)
  nil := fun _ => nofun
  cons := by
    intro descriptor rest first later legible
    obtain ⟨head, tail⟩ := List.forall_mem_cons.1 legible
    exact List.forall_mem_cons.2 ⟨first head, later tail⟩

namespace Trigger

theorem ofJson_toJson_iff {trigger : Trigger} :
    Trigger.ofJson trigger.toJson = .ok trigger ↔ trigger.Legible := by
  constructor
  · exact (ofJson_ensures trigger.toJson).2 trigger
  · exact Trigger.induction ofJson_toJson_cases trigger

/-- A tree that was read is read back, as it is and resolved. -/
theorem ofJson_toJson_resolve {value : Json} {trigger : Trigger}
    (reads : Trigger.ofJson value = .ok trigger) :
    Trigger.ofJson trigger.toJson = .ok trigger ∧
      ∀ scopes, Trigger.ofJson (trigger.resolve scopes).toJson = .ok (trigger.resolve scopes) := by
  have legible := (ofJson_ensures value).2 trigger reads
  refine ⟨ofJson_toJson_iff.2 legible, ?_⟩
  intro scopes
  apply ofJson_toJson_iff.2
  exact Trigger.induction (legible_resolve_cases scopes) trigger legible

/-- A method in lower case, a body of `null` and steps that are left out are all printed as they
were understood. -/
theorem ofJson_toJson_resolve_request :
    let request := Json.obj [("action", .str "apiCall"), ("body", .null),
      ("endpoint", .str "/users/${session.id}"), ("method", .str "get"),
      ("onError", .obj [("action", .str "goBack")]),
      ("onSuccess", .arr [.obj [("action", .str "setState"),
        ("updates", .obj [("old", .null), ("user", .str "${response}")])]])]
    let trigger := Trigger.single (.mk (.apiCall .get "/users/${session.id}" none none)
      (some (.chain [.mk (.setState [("old", .null), ("user", .str "${response}")]) none none]))
      (some (.single (.mk (.goBack 1 false) none none))))
    Trigger.ofJson request = .ok trigger ∧ Trigger.ofJson trigger.toJson = .ok trigger ∧
      ∀ scopes, Trigger.ofJson (trigger.resolve scopes).toJson = .ok (trigger.resolve scopes) := by
  intro request trigger
  have isGet : Payload.method (.str "get") = .ok .get := by
    have named : Http.Method.ofName? "get" = some .get := by decide +kernel
    simp only [Payload.method, named]
  have reads : Trigger.ofJson request = .ok trigger := by
    simp [request, trigger, Trigger.ofJson, Descriptor.ofJson, Descriptor.ofItems,
      Descriptor.ofParts, ofField_eq, Table.get?_cons, readTag, tags, ofFields, readPayload,
      readApiCall, readSetState, readGoBack, Payload.read, Payload.readOptional, Payload.require,
      Payload.text, Payload.table, isGet, bind, Except.bind, Except.map, Except.mapError, pure,
      Except.pure]
  exact ⟨reads, ofJson_toJson_resolve reads⟩

end Trigger

end Storyboard
