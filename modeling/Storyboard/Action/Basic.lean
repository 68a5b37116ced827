import Storyboard.Http.Method
import Storyboard.Template.Resolve
/-!
# Actions

What a control of a screen does. An action may have continuations, one for its success
and one for its failure; each is again a single action or a list of actions that run
one after another. So what a control declares, its trigger, is a tree.
-/

namespace Storyboard

/-- One thing to do. -/
inductive Action where
  /-- Shows another screen of the current flow in place of the current one. -/
  | navigate (screen : String)
  /-- Shows a screen of any flow on top of the current one; `data` goes into the session. -/
  | navigateToFlow (flow screen : String) (data : Option Fields)
  /-- Writes values into the session. -/
  | setState (updates : Fields)
  /-- Sends a request. -/
  | apiCall (method : Http.Method) (endpoint : String) (headers : Option Fields)
      (body : Option Json)
  /-- Calls a handler of the host. -/
  | custom (handler : String) (parameters : Option Fields)
  /-- Goes back some screens, and with `clearData` empties the session. -/
  | goBack (steps : Nat) (clearData : Bool)
  /-- Calls a handler of the host by its registered name. -/
  | executeCallback (name : String) (params : Option Fields)
deriving DecidableEq

mutual

/-- An action with its continuations. -/
inductive Descriptor where
  | mk (action : Action) (onSuccess : Option Trigger) (onError : Option Trigger)

/-- What a control declares: a single action, or a list of actions run in order. -/
inductive Trigger where
  | single (descriptor : Descriptor)
  | chain (descriptors : List Descriptor)

end

namespace Action

/-- The word that declares an action. -/
def tag : Action → String
  | navigate .. => "navigate"
  | navigateToFlow .. => "navigateToFlow"
  | setState .. => "setState"
  | apiCall .. => "apiCall"
  | custom .. => "custom"
  | goBack .. => "goBack"
  | executeCallback .. => "executeCallback"

/-- The words that declare actions. -/
def tags : List String :=
  ["navigate", "navigateToFlow", "setState", "apiCall", "custom", "goBack", "executeCallback"]

/-- The action with every text of its payload resolved. -/
def resolve (action : Action) (scopes : Scopes) : Action :=
  match action with
  | navigate screen => navigate (Template.resolve screen scopes)
  | navigateToFlow flow screen data =>
    navigateToFlow (Template.resolve flow scopes) (Template.resolve screen scopes)
      (data.map (·.resolve scopes))
  | setState updates => setState (updates.resolve scopes)
  | apiCall method endpoint headers body =>
    apiCall method (Template.resolve endpoint scopes) (headers.map (·.resolve scopes))
      (body.map (·.resolve scopes))
  | custom handler parameters =>
    custom (Template.resolve handler scopes) (parameters.map (·.resolve scopes))
  | goBack steps clearData => goBack steps clearData
  | executeCallback name params =>
    executeCallback (Template.resolve name scopes) (params.map (·.resolve scopes))

end Action

namespace Descriptor

/-- What to do. -/
def action : Descriptor → Action
  | mk action _ _ => action

/-- What to run after success. -/
def onSuccess : Descriptor → Option Trigger
  | mk _ onSuccess _ => onSuccess

/-- What to run after a failure, which then counts as handled. -/
def onError : Descriptor → Option Trigger
  | mk _ _ onError => onError

end Descriptor

namespace Trigger

/-- The descriptors at the top of a trigger. -/
def descriptors : Trigger → List Descriptor
  | single descriptor => [descriptor]
  | chain descriptors => descriptors

end Trigger

mutual

/-- The descriptor with its own action and those of its continuations resolved. -/
def Descriptor.resolve (scopes : Scopes) : Descriptor → Descriptor
  | .mk action onSuccess onError =>
    .mk (action.resolve scopes)
      (match onSuccess with
        | some trigger => some (trigger.resolve scopes)
        | none => none)
      (match onError with
        | some trigger => some (trigger.resolve scopes)
        | none => none)
termination_by structural descriptor => descriptor

/-- The trigger with every action in it resolved. -/
def Trigger.resolve (scopes : Scopes) : Trigger → Trigger
  | .single descriptor => .single (descriptor.resolve scopes)
  | .chain descriptors => .chain (Descriptor.resolveAll scopes descriptors)
termination_by structural trigger => trigger

/-- The descriptors with every action in them resolved. -/
def Descriptor.resolveAll (scopes : Scopes) : List Descriptor → List Descriptor
  | [] => []
  | descriptor :: rest => descriptor.resolve scopes :: Descriptor.resolveAll scopes rest
termination_by structural descriptors => descriptors

end

end Storyboard
