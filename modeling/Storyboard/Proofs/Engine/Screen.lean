import Storyboard.Proofs.Action.Grammar
import Storyboard.Proofs.Engine.History
import Storyboard.Proofs.Template.Tree
/-!
# Drawn screens

A screen is drawn from the tree that its flow declares. Every string is replaced, except in
actions: these are drawn as they are declared, so that what a control triggers is resolved when
it runs, with the field values that there are then.

Main result: `resolveScreen_renders`.
-/

namespace Storyboard

namespace Json

variable {keep : Bool} {scopes : Scopes} {value child part : Json} {step : Step}
  {path : List Step}

/-! ### Places of a resolved tree -/

theorem child?_resolveTree (enters : keep = true → value.isAction = false)
    (found : value.child? step = some child) :
    (value.resolveTree keep scopes).child? step = some (child.resolveTree keep scopes) := by
  cases value with
  | arr items =>
      cases step with
      | member key => cases found
      | item index =>
          simp only [child?] at found
          simp [resolveTree, child?, found]
  | obj fields =>
      cases step with
      | item index => cases found
      | member key =>
          simp only [child?] at found
          rw [resolveTree_obj enters, child?, get?_resolveFields, found, Option.map_some]
  | _ => cases found

/-- A place that is not guarded holds what its own tree resolves to. -/
theorem at?_resolveTree (unguarded : keep = true → ¬value.Guards path)
    (found : value.at? path = some part) :
    (value.resolveTree keep scopes).at? path = some (part.resolveTree keep scopes) := by
  induction path generalizing value with
  | nil =>
      cases found
      rfl
  | cons step rest ih =>
      obtain ⟨child, isChild, reached⟩ := at?_cons_eq_some_iff.1 found
      have enters : keep = true → value.isAction = false := by
        intro isKept
        rw [← Bool.not_eq_true]
        intro action
        exact unguarded isKept (guards_of_isAction action _)
      refine at?_cons_eq_some_iff.2 ⟨_, child?_resolveTree enters isChild, ?_⟩
      apply ih _ reached
      intro isKept
      rw [← guards_cons_iff (enters isKept) isChild]
      exact unguarded isKept

/-- A guarded place holds what it held. -/
theorem at?_resolveScreen_of_guards (guarded : value.Guards path)
    (found : value.at? path = some part) :
    (value.resolveScreen scopes).at? path = some part := by
  induction path generalizing value with
  | nil =>
      obtain ⟨above, action, isPrefix, reached, isAction⟩ := guarded
      rw [List.prefix_nil.1 isPrefix] at reached
      cases reached
      rw [resolveScreen, resolveTree_of_isAction isAction]
      exact found
  | cons step rest ih =>
      cases action : value.isAction with
      | true =>
          rw [resolveScreen, resolveTree_of_isAction action]
          exact found
      | false =>
          obtain ⟨child, isChild, reached⟩ := at?_cons_eq_some_iff.1 found
          refine at?_cons_eq_some_iff.2 ⟨_, child?_resolveTree (fun _ => action) isChild, ?_⟩
          exact ih ((guards_cons_iff action isChild).1 guarded) reached

theorem resolveTree_of_isScalar (scalar : part.isScalar = true) :
    part.resolveTree keep scopes = part := by
  cases part with
  | null | bool _ | int _ | float _ => rfl
  | _ => cases scalar

/-- Where there is no action, a screen is resolved like any other tree. -/
theorem resolveScreen_of_no_action
    (plain : ∀ part, value.HasPart false part → part.isAction = false) :
    value.resolveScreen scopes = value.resolve scopes := by
  unfold resolveScreen resolve
  induction value using Json.induction with
  | arr items ih =>
      simp only [resolveTree, resolveItems_eq, arr.injEq]
      apply List.map_congr_left
      intro item member
      apply ih item member
      intro part isPart
      exact plain part (.item member isPart)
  | obj fields ih =>
      have enters : isAction (.obj fields) = false := plain _ (.self _)
      rw [resolveTree_obj fun _ => enters, resolveTree_obj fun _ => enters, resolveFields_eq,
        resolveFields_eq, obj.injEq]
      apply List.map_congr_left
      rintro ⟨key, stored⟩ member
      rw [ih key stored member]
      intro part isPart
      exact plain part (.value (fun _ => enters) member isPart)
  | _ => rfl

theorem resolveScreen_obj {fields : Fields} (plain : isAction (.obj fields) = false) :
    (obj fields).resolveScreen scopes = .obj (resolveFields true scopes fields) :=
  resolveTree_obj fun _ => plain

theorem isAction_resolveFields (fields : Fields) :
    isAction (.obj (resolveFields keep scopes fields)) = isAction (.obj fields) := by
  simp only [isAction, Table.contains, get?_resolveFields, Option.isSome_map]

/-- Only a reference to an action becomes an action. -/
theorem exists_reference_of_isAction (plain : value.isAction = false)
    (action : (value.resolveScreen scopes).isAction = true) :
    ∃ reference : Reference, value = .str reference.text ∧
      scopes.lookup reference = some (value.resolveScreen scopes) := by
  cases value with
  | str text =>
      change (Template.resolveValue text scopes).isAction = true at action
      rcases Template.resolveValue_cases text scopes with ⟨reference, -, isText, found, -⟩ | isText
      · exact ⟨reference, by rw [← isText], found⟩
      · rw [isText] at action
        cases action
  | obj fields =>
      rw [resolveScreen_obj plain, isAction_resolveFields, plain] at action
      cases action
  | _ => cases action

theorem isAction_of_isDescriptor (descriptor : Action.IsDescriptor value) :
    value.isAction = true := by
  cases descriptor with
  | object tagged => simp [isAction, Table.contains, actionKey, tagged]

/-- A trigger is drawn as it is, be it a single action or a list. -/
theorem resolveScreen_of_isTrigger (trigger : Action.IsTrigger value) :
    value.resolveScreen scopes = value := by
  cases trigger with
  | single descriptor => exact resolveTree_of_isAction (isAction_of_isDescriptor descriptor)
  | chain descriptors =>
      have same : ∀ item ∈ _, resolveTree true scopes item = item := fun item member =>
        resolveTree_of_isAction (isAction_of_isDescriptor (descriptors item member))
      rw [resolveScreen, resolveTree, resolveItems_eq, List.map_congr_left same, List.map_id']

end Json

namespace Engine

/-- The current screen as its flow declares it. -/
def rawScreen (engine : Engine) : Except Fault Json :=
  match (engine.library.load engine.context.current.flow).1 with
  | .error fault => .error fault
  | .ok flow =>
    match flow.screen? engine.context.current.screen with
    | none => .error (.unknownScreen engine.context.current.flow engine.context.current.screen)
    | some screen => .ok screen

theorem currentScreen_eq_map (engine : Engine) (fields : Fields) :
    (engine.currentScreen fields).1 = engine.rawScreen.map fun raw =>
      ⟨engine.context.current.flow, engine.context.current.screen,
        raw.resolveScreen (engine.context.scopes fields none none)⟩ := by
  rw [currentScreen_fst, rawScreen]
  cases (engine.library.load engine.context.current.flow).1 with
  | error fault => rfl
  | ok flow =>
      cases found : flow.screen? engine.context.current.screen with
      | none => simp only [found, Except.map]
      | some screen => simp only [found, Except.map]

/-- What is promised of a tree that is drawn in some scopes. -/
structure Renders (raw : Json) (scopes : Scopes) : Prop where
  /-- At an action and inside one, the drawn tree is the raw tree. -/
  guarded : ∀ path part, raw.at? path = some part → raw.Guards path →
    (raw.resolveScreen scopes).at? path = some part
  /-- Every other string is replaced, and as it is where no action is spared. -/
  strings : ∀ path text, raw.at? path = some (.str text) → ¬raw.Guards path →
    (raw.resolveScreen scopes).at? path = some ((Json.str text).resolve scopes) ∧
      (raw.resolve scopes).at? path = some ((Json.str text).resolve scopes)
  /-- Objects keep their keys. -/
  objects : ∀ path fields, raw.at? path = some (.obj fields) → ∃ drawn : Fields,
    (raw.resolveScreen scopes).at? path = some (.obj drawn) ∧ drawn.keys = Table.keys fields
  /-- Arrays keep their lengths; the place of an item is its index. -/
  arrays : ∀ path items, raw.at? path = some (.arr items) → ∃ drawn,
    (raw.resolveScreen scopes).at? path = some (.arr drawn) ∧ drawn.length = items.length
  scalars : ∀ path scalar, raw.at? path = some scalar → scalar.isScalar = true →
    (raw.resolveScreen scopes).at? path = some scalar
  /-- An action that is drawn at a place of the raw tree is the one declared there, unless what
  is declared there is a reference whose value it is. -/
  actions : ∀ path part action, raw.at? path = some part →
    (raw.resolveScreen scopes).at? path = some action → action.isAction = true →
    action = part ∨ ∃ reference : Reference, part = .str reference.text ∧
      scopes.lookup reference = some action
  /-- An action, or a list of actions, is drawn as it is declared. -/
  triggers : ∀ path trigger, raw.at? path = some trigger →
    trigger.isAction = true ∨ Action.IsTrigger trigger →
    (raw.resolveScreen scopes).at? path = some trigger
  /-- Taken off the drawn tree, it runs as the declared one does. -/
  dispatches : ∀ path trigger taken, raw.at? path = some trigger →
    trigger.isAction = true ∨ Action.IsTrigger trigger →
    (raw.resolveScreen scopes).at? path = some taken → ∀ runSteps fields engine,
    dispatch runSteps taken fields engine = dispatch runSteps trigger fields engine
  /-- A tree without an action is resolved like any other. -/
  plain : (∀ part, raw.HasPart false part → part.isAction = false) →
    raw.resolveScreen scopes = raw.resolve scopes
  /-- This is how the current screen is drawn. -/
  shown : ∀ (engine : Engine) (fields : Fields), engine.rawScreen = .ok raw →
    engine.context.scopes fields none none = scopes →
    (engine.currentScreen fields).1 = .ok ⟨engine.context.current.flow,
      engine.context.current.screen, raw.resolveScreen scopes⟩

section Places

variable {raw part trigger : Json} {scopes : Scopes} {path : List Json.Step}

/-- A place of the drawn tree holds what it held, or what that resolves to. -/
theorem at?_resolveScreen (found : raw.at? path = some part) :
    (raw.resolveScreen scopes).at? path = some part ∨
      ¬raw.Guards path ∧
        (raw.resolveScreen scopes).at? path = some (part.resolveScreen scopes) := by
  by_cases guarded : raw.Guards path
  · exact Or.inl (Json.at?_resolveScreen_of_guards guarded found)
  · exact Or.inr ⟨guarded, Json.at?_resolveTree (fun _ => guarded) found⟩

theorem at?_resolveScreen_of_eq (found : raw.at? path = some part)
    (same : part.resolveScreen scopes = part) :
    (raw.resolveScreen scopes).at? path = some part := by
  rcases at?_resolveScreen found with kept | ⟨-, drawn⟩
  · exact kept
  · rw [drawn, same]

theorem at?_resolveScreen_of_trigger (found : raw.at? path = some trigger)
    (isTrigger : trigger.isAction = true ∨ Action.IsTrigger trigger) :
    (raw.resolveScreen scopes).at? path = some trigger := by
  apply at?_resolveScreen_of_eq found
  rcases isTrigger with action | trigger
  · exact Json.resolveTree_of_isAction action
  · exact Json.resolveScreen_of_isTrigger trigger

end Places

/-- A screen spares its actions and resolves everything else. -/
theorem resolveScreen_renders (raw : Json) (scopes : Scopes) : Renders raw scopes where
  guarded path part found guarded := Json.at?_resolveScreen_of_guards guarded found
  strings path text found unguarded :=
    ⟨Json.at?_resolveTree (fun _ => unguarded) found, Json.at?_resolveTree nofun found⟩
  objects path fields found := by
    rcases at?_resolveScreen found with kept | ⟨unguarded, drawn⟩
    · exact ⟨fields, kept, rfl⟩
    · have plain := Json.isAction_of_not_guards unguarded found
      rw [Json.resolveScreen_obj plain] at drawn
      exact ⟨_, drawn, Json.keys_resolveFields fields⟩
  arrays path items found := by
    rcases at?_resolveScreen found with kept | ⟨-, drawn⟩
    · exact ⟨items, kept, rfl⟩
    · exact ⟨_, drawn, by simp⟩
  scalars path scalar found isScalar :=
    at?_resolveScreen_of_eq found (Json.resolveTree_of_isScalar isScalar)
  actions path part action found drawn isAction := by
    rcases at?_resolveScreen found with kept | ⟨unguarded, resolved⟩
    · exact Or.inl (Option.some.inj (drawn.symm.trans kept))
    · cases Option.some.inj (drawn.symm.trans resolved)
      have plain := Json.isAction_of_not_guards unguarded found
      exact Or.inr (Json.exists_reference_of_isAction plain isAction)
  triggers path trigger := at?_resolveScreen_of_trigger
  dispatches path trigger taken found isTrigger drawn runSteps fields engine := by
    have kept : (raw.resolveScreen scopes).at? path = some trigger :=
      at?_resolveScreen_of_trigger found isTrigger
    rw [Option.some.inj (drawn.symm.trans kept)]
  plain := Json.resolveScreen_of_no_action
  shown engine fields declared inScopes := by
    rw [currentScreen_eq_map, declared, inScopes]
    rfl

end Engine

end Storyboard
