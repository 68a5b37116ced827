import Storyboard.Proofs.Action.Printed
import Storyboard.Proofs.Template.Tree
/-!
# Values and texts

A template has a value and a text. The value shown inside other text is the text. It is something
other than a string only where the whole template is one reference, so nothing but a value of the
data can bring another type in. What has no reference with a value is left as it is: texts, trees,
screens, tables and actions alike.

Main result: `resolve_coherent`.
-/

namespace Storyboard

variable {scopes : Scopes}

namespace Json

variable {value part : Json} {reference : Reference}

theorem HasPart.anywhere {outside : Bool} (isPart : value.HasPart outside part) :
    value.HasPart false part := by
  induction isPart with
  | self => exact .self _
  | item member _ ih => exact .item member ih
  | value _ member _ ih => exact .value nofun member ih

theorem settled_str_iff {text : String} {outside : Bool} :
    (str text).Settled outside scopes ↔ Template.Settled scopes text := by
  constructor
  · intro settled reference member
    exact settled reference ⟨text, .self _, member⟩
  · rintro settled reference ⟨other, isPart, member⟩
    cases isPart
    exact settled reference member

theorem Settled.outside (settled : value.Settled false scopes) : value.Settled true scopes := by
  rintro reference ⟨text, isPart, member⟩
  exact settled reference ⟨text, isPart.anywhere, member⟩

theorem Settled.member {fields : Fields} {key : String}
    (settled : (obj fields).Settled false scopes)
    (member : (key, value) ∈ fields) : value.Settled false scopes := by
  rintro reference ⟨text, isPart, mentioned⟩
  exact settled reference ⟨text, .value nofun member isPart, mentioned⟩

theorem resolve_of_settled (settled : value.Settled false scopes) : value.resolve scopes = value :=
  resolveTree_of_settled settled

end Json

theorem Fields.resolve_of_settled {fields : Fields}
    (settled : (Json.obj fields).Settled false scopes) : fields.resolve scopes = fields := by
  have kept := Json.resolve_of_settled settled
  exact Json.obj.inj kept

namespace Action

variable {action : Action}

theorem settled_of_mem_payloadFields (settled : action.toJson.Settled false scopes) {field : String}
    {value : Json} (member : (field, value) ∈ action.payloadFields) :
    value.Settled false scopes := by
  have isPrinted : (field, value) ∈ action.printed none none := by
    simp [printed, member]
  have stored := Table.get?_of_mem (nodup_keys_printed action none none) isPrinted
  rw [← get?_ofList_printed] at stored
  rw [toJson_eq, withContinuations_eq] at settled
  exact settled.member (Table.mem_of_get? stored)

theorem map_resolve_of_settled {data : Option Fields}
    (settled : ∀ entries, data = some entries → (Json.obj entries).Settled false scopes) :
    data.map (·.resolve scopes) = data := by
  cases data with
  | none => rfl
  | some entries => rw [Option.map_some, Fields.resolve_of_settled (settled entries rfl)]

/-- An action of which no reference has a value is resolved to itself. -/
theorem resolve_of_settled (settled : action.toJson.Settled false scopes) :
    action.resolve scopes = action := by
  have part (field : String) (value : Json) (member : (field, value) ∈ action.payloadFields) :
      value.Settled false scopes := settled_of_mem_payloadFields settled member
  have text (field text : String) (member : (field, .str text) ∈ action.payloadFields) :
      Template.resolve text scopes = text :=
    Template.resolve_of_settled (Json.settled_str_iff.1 (part field _ member))
  cases action with
  | navigate screen => rw [resolve, text "screen" screen (by simp [payloadFields])]
  | navigateToFlow flow screen data =>
      rw [resolve, text "targetFlow" flow (by simp [payloadFields]),
        text "targetScreen" screen (by simp [payloadFields]), map_resolve_of_settled]
      rintro entries rfl
      exact part "data" _ (by simp [payloadFields, optionalField])
  | setState updates =>
      rw [resolve, Fields.resolve_of_settled (part "updates" _ (by simp [payloadFields]))]
  | apiCall method endpoint headers body =>
      have sameBody : body.map (·.resolve scopes) = body := by
        cases body with
        | none => rfl
        | some value =>
            have settled := part "body" value (by simp [payloadFields, optionalField])
            rw [Option.map_some, Json.resolve_of_settled settled]
      rw [resolve, text "endpoint" endpoint (by simp [payloadFields]), sameBody,
        map_resolve_of_settled]
      rintro entries rfl
      exact part "headers" _ (by simp [payloadFields, optionalField])
  | custom handler parameters =>
      rw [resolve, text "handler" handler (by simp [payloadFields]), map_resolve_of_settled]
      rintro entries rfl
      exact part "parameters" _ (by simp [payloadFields, optionalField])
  | goBack steps clearData => rfl
  | executeCallback name params =>
      rw [resolve, text "callbackName" name (by simp [payloadFields]), map_resolve_of_settled]
      rintro entries rfl
      exact part "params" _ (by simp [payloadFields, optionalField])

end Action

namespace Template

/-- What is promised of the values and texts that templates have in some scopes. -/
structure Coherent (scopes : Scopes) : Prop where
  /-- The text of a template is its value as it is shown in other text. -/
  text : ∀ template, resolve template scopes = ((Json.str template).resolve scopes).inlineText
  /-- The value is the referenced one if the template is one reference that has a value. -/
  referenced : ∀ reference : Reference, reference.WellFormed → ∀ value,
    scopes.lookup reference = some value → (Json.str reference.text).resolve scopes = value
  /-- In every other case it is the text. -/
  typed : ∀ template, (Json.str template).resolve scopes = .str (resolve template scopes) ∨
    ∃ reference : Reference, reference.WellFormed ∧ template = reference.text ∧
      scopes.lookup reference = some ((Json.str template).resolve scopes)
  present : ∀ template, (Json.str template).resolve scopes ≠ .null
  /-- A text without a reference that has a value is its own text and its own value. -/
  settledText : ∀ template, Settled scopes template →
    resolve template scopes = template ∧ (Json.str template).resolve scopes = .str template
  settledTree : ∀ tree : Json, tree.Settled false scopes →
    tree.resolve scopes = tree ∧ tree.resolveScreen scopes = tree
  /-- Of a screen, only the references outside its actions count. -/
  settledScreen : ∀ tree : Json, tree.Settled true scopes → tree.resolveScreen scopes = tree
  settledTable : ∀ fields : Fields, (Json.obj fields).Settled false scopes →
    fields.resolve scopes = fields
  settledAction : ∀ action : Action, action.toJson.Settled false scopes →
    action.resolve scopes = action

/-- Values and texts agree, and both leave alone what has nothing to replace. -/
theorem resolve_coherent (scopes : Scopes) : Coherent scopes where
  text template := by
    change _ = (resolveValue template scopes).inlineText
    rcases resolveValue_cases template scopes with ⟨_, -, -, -, shown⟩ | isText
    · exact shown
    · rw [isText, Json.inlineText]
  referenced _ wellFormed _ found := resolveValue_text wellFormed found
  typed template := by
    rcases resolveValue_cases template scopes with ⟨reference, wellFormed, alone, found, -⟩ | isText
    · exact Or.inr ⟨reference, wellFormed, alone, found⟩
    · exact Or.inl isText
  present template := resolveValue_ne_null template scopes
  settledText template settled := ⟨resolve_of_settled settled, resolveValue_of_settled settled⟩
  settledTree tree settled :=
    ⟨Json.resolve_of_settled settled, Json.resolveTree_of_settled settled.outside⟩
  settledScreen _ := Json.resolveTree_of_settled
  settledTable _ := Fields.resolve_of_settled
  settledAction _ := Action.resolve_of_settled

end Template

end Storyboard
