import Storyboard.Action.Basic
import Storyboard.Engine.Basic
import Storyboard.Json.Printer
/-!
# Running actions

A run executes the actions of a trigger. Before an action is executed, every text of its
payload is resolved against the session, the field values of the run and what earlier
actions left. An action that succeeds is followed by its continuation for success; one
that fails by its continuation for failure, and then counts as handled. A list runs in
order until an action fails without being handled: that fault ends the run.

A mistake in a flow or in the host's set-up is reported to the developer whether or not it
is handled; any other fault only if it is not.

Main definitions: `perform` executes one action, `Trigger.run` a trigger, `Engine.run` a
whole run.
-/

namespace Storyboard

namespace Engine

/-- Takes a collaborator's own steps. -/
abbrev Runner := List Step → Engine → List Entry × Engine

/-- What an action came to: its outcome and the messages that it sends. -/
structure Effect where
  outcome : Outcome
  messages : List Message := []

/-- Shows another screen of the current flow. -/
def navigate (engine : Engine) (screen : String) : Effect × Engine :=
  let frame := engine.context.current
  match engine.load frame.flow with
  | (.error fault, engine) => ({ outcome := .error fault }, engine)
  | (.ok flow, engine) =>
    if flow.hasScreen screen then
      let engine := { engine with context := engine.context.replaceScreen screen }
      ({ outcome := .ok none, messages := [engine.location] }, engine)
    else ({ outcome := .error (.unknownScreen frame.flow screen) }, engine)

/-- The message on written session keys, unless there are none. -/
def updateNotice : List String → List Message
  | [] => []
  | keys => [.sessionUpdated keys]

/-- Shows a screen of any flow on top of the current one. -/
def navigateToFlow (engine : Engine) (flow screen : String) (data : Option Fields) :
    Effect × Engine :=
  match engine.load flow with
  | (.error fault, engine) => ({ outcome := .error fault }, engine)
  | (.ok loaded, engine) =>
    if loaded.hasScreen screen then
      let (keys, context) := engine.context.push ⟨flow, screen⟩ data
      let engine := { engine with context }
      ({ outcome := .ok none, messages := updateNotice keys ++ [engine.location] }, engine)
    else ({ outcome := .error (.unknownScreen flow screen) }, engine)

/-- Writes values into the session. -/
def setState (engine : Engine) (updates : Fields) : Effect × Engine :=
  let (keys, context) := engine.context.merge updates
  ({ outcome := .ok none, messages := [.sessionUpdated keys] }, { engine with context })

/-- Goes back. -/
def goBack (engine : Engine) (steps : Nat) (clearData : Bool) : Effect × Engine :=
  let (removed, context) := engine.context.goBack steps clearData
  let engine := { engine with context }
  let cleared := if clearData then [Message.sessionCleared] else []
  let moved := if removed.isEmpty then [] else [engine.location]
  ({ outcome := .ok none, messages := cleared ++ moved }, engine)

/-- The text of a header's value; `null` leaves the header out. -/
def headerText : Json → Option String
  | .null => none
  | value => some value.inlineText

/-- The headers of a request. -/
def headerTable (headers : Fields) : Table String :=
  Table.ofList (headers.filterMap fun header => (headerText header.2).map (header.1, ·))

/-- The next reply for an endpoint, taken off its list unless it is the last. -/
def takeReply (engine : Engine) (endpoint : String) : Reply Step × Engine :=
  match engine.replies.get? endpoint with
  | none | some [] => ({ outcome := .error "connection refused" }, engine)
  | some [reply] => (reply, engine)
  | some (reply :: rest) => (reply, { engine with replies := engine.replies.put endpoint rest })

/-- The outcome that a reply is. -/
def replyOutcome : Except String Http.Response → Outcome
  | .ok response => response.outcome.map some
  | .error message => .error (.network message)

/-- Sends a request and waits for its reply. -/
def sendRequest (runSteps : Runner) (engine : Engine) (request : Http.Request) :
    Effect × Engine :=
  let moment := engine.snapshot
  let (reply, engine) := (engine.mark (.requesting request)).takeReply request.endpoint
  let effect : Effect := { outcome := replyOutcome reply.outcome }
  match reply.during with
  | none => (effect, engine.note (.request request moment none))
  | some steps =>
    let (entries, engine) := runSteps steps engine
    (effect, engine.note (.request request moment (some entries)))

/-- Calls a handler of the host. -/
def callHandler (runSteps : Runner) (engine : Engine) (name : String)
    (params : Option Fields) : Outcome × Engine :=
  match engine.registry.get? name with
  | none => (.error (.unknownCallback name), engine)
  | some handler =>
    let invocation := handler.invoke runSteps name params (engine.mark (.calling name params))
    (invocation.outcome,
      invocation.world.note (.handler name params engine.snapshot invocation.during))

/-- Executes an action whose payload is resolved. -/
def perform (runSteps : Runner) (action : Action) (engine : Engine) : Effect × Engine :=
  match action with
  | .navigate screen => engine.navigate screen
  | .navigateToFlow flow screen data => engine.navigateToFlow flow screen data
  | .setState updates => engine.setState updates
  | .apiCall method endpoint headers body =>
    engine.sendRequest runSteps
      { method, endpoint, headers := headerTable (headers.getD []), body }
  | .custom handler params =>
    let (outcome, engine) := engine.callHandler runSteps handler params
    ({ outcome }, engine)
  | .goBack steps clearData => engine.goBack steps clearData
  | .executeCallback name params =>
    let (outcome, engine) := engine.callHandler runSteps name params
    ({ outcome }, engine)

/-- What the actions of a run see besides the session. -/
structure Scope where
  fields : Fields
  response : Option Json := none
  error : Option Json := none
  /-- The number of continuations that led here. -/
  depth : Nat := 0
deriving DecidableEq

namespace Scope

/-- The scope after a success; an action without output leaves the older response. -/
def afterSuccess (scope : Scope) (output : Option Json) : Scope :=
  { scope with response := output <|> scope.response, depth := scope.depth + 1 }

/-- The scope after a failure. -/
def afterFailure (scope : Scope) (fault : Fault) : Scope :=
  { scope with error := some fault.scopeValue, depth := scope.depth + 1 }

end Scope

/-- A way down a trigger's tree. -/
inductive Edge where
  | item (index : Nat)
  | onSuccess
  | onError
deriving DecidableEq, Repr

/-- One executed action of a run. -/
structure Execution where
  /-- The way from the trigger to the action, the last edge first. -/
  place : List Edge
  scope : Scope
  /-- The action with its payload resolved. -/
  action : Action
  outcome : Outcome
  /-- The messages that the action sent. -/
  messages : List Message
  /-- Whether a failure is handled. -/
  handled : Bool

/-- What a run came to: its outcome, the actions that it executed, the places of the triggers
that it started, and for each descriptor the outcome with which it returned, its
continuation included; each list is in the order of happening. -/
structure Run where
  outcome : Outcome
  executed : List Execution := []
  started : List (List Edge) := []
  returned : List (List Edge × Outcome) := []

/-- The diagnostic on a fault, if a developer has to hear of it. -/
def diagnostic? (tag : String) (fault : Fault) (handled : Bool) : Option Message :=
  let text := tag ++ ": " ++ fault.message
  if fault.isMistake then some (.diagnostic .error text)
  else if handled then none
  else some (.diagnostic .warning text)

/-- The phase that an outcome leads to. -/
def settled (tag : String) : Outcome → Phase
  | .ok _ => .succeeded tag
  | .error fault => .failed tag fault.message

/-- The diagnostics on an outcome. -/
def diagnostics (tag : String) (handled : Bool) : Outcome → List Message
  | .ok _ => []
  | .error fault => (diagnostic? tag fault handled).toList

/-- Executes the action of a descriptor, continuations aside. -/
def execute (runSteps : Runner) (place : List Edge) (scope : Scope) (action : Action)
    (handled : Bool) (engine : Engine) : Execution × Engine :=
  let action :=
    action.resolve (engine.context.scopes scope.fields scope.response scope.error)
  let engine := (engine.enter (.executing action.tag scope.depth)).mark (.executing action)
  let (effect, engine) := perform runSteps action engine
  let engine := (engine.sendAll effect.messages).enter (settled action.tag effect.outcome)
  let engine := engine.sendAll (diagnostics action.tag handled effect.outcome)
  (⟨place, scope, action, effect.outcome, effect.messages, handled⟩,
    engine.mark (.executed action effect.outcome))

namespace Run

/-- The run of a single action. -/
def ofExecution (execution : Execution) : Run := ⟨execution.outcome, [execution], [], []⟩

/-- What came of two runs, one after the other; the outcome is that of the later one. -/
def after (later earlier : Run) : Run :=
  { outcome := later.outcome
    executed := earlier.executed ++ later.executed
    started := earlier.started ++ later.started
    returned := earlier.returned ++ later.returned }

/-- The run of a trigger at a place. -/
def startedAt (run : Run) (place : List Edge) : Run :=
  { run with started := place :: run.started }

/-- The run of a descriptor at a place, which returns now. -/
def returnedAt (run : Run) (place : List Edge) : Run :=
  { run with returned := run.returned ++ [(place, run.outcome)] }

end Run

end Engine

open Engine

mutual

/-- Runs a descriptor: its action, then the continuation that its outcome asks for. -/
def Descriptor.run (runSteps : Runner) (place : List Edge) (scope : Scope) :
    Descriptor → Engine → Run × Engine
  | .mk action onSuccess onError, engine =>
    let (execution, engine) := execute runSteps place scope action onError.isSome engine
    match execution.outcome with
    | .ok output =>
      match onSuccess with
      | some next =>
        let (run, engine) :=
          next.run runSteps (.onSuccess :: place) (scope.afterSuccess output) engine
        ((run.after (.ofExecution execution)).returnedAt place, engine)
      | none => ((Run.ofExecution execution).returnedAt place, engine)
    | .error fault =>
      match onError with
      | some next =>
        let (run, engine) :=
          next.run runSteps (.onError :: place) (scope.afterFailure fault) engine
        ((run.after (.ofExecution execution)).returnedAt place, engine)
      | none => ((Run.ofExecution execution).returnedAt place, engine)
termination_by structural descriptor => descriptor

/-- Runs a trigger. -/
def Trigger.run (runSteps : Runner) (place : List Edge) (scope : Scope) :
    Trigger → Engine → Run × Engine
  | .single descriptor, engine =>
    let (run, engine) := descriptor.run runSteps place scope engine
    (run.startedAt place, engine)
  | .chain descriptors, engine =>
    let (run, engine) := Descriptor.runList runSteps place scope 0 none descriptors engine
    (run.startedAt place, engine)
termination_by structural trigger => trigger

/-- Runs the rest of a list from the descriptor of an index on; `last` is the output of
the descriptor before it. -/
def Descriptor.runList (runSteps : Runner) (place : List Edge) (scope : Scope) (index : Nat)
    (last : Option Json) : List Descriptor → Engine → Run × Engine
  | [], engine => (⟨.ok last, [], [], []⟩, engine)
  | descriptor :: rest, engine =>
    let (run, engine) := descriptor.run runSteps (.item index :: place) scope engine
    match run.outcome with
    | .ok output =>
      let (following, engine) :=
        Descriptor.runList runSteps place scope (index + 1) output rest engine
      (following.after run, engine)
    | .error _ => (run, engine)
termination_by structural descriptors => descriptors

end

namespace Engine

/-- Runs a trigger with field values; afterwards nothing runs. -/
def run (runSteps : Runner) (trigger : Trigger) (fields : Fields) (engine : Engine) :
    Run × Engine :=
  let (run, engine) := trigger.run runSteps [] { fields } engine
  (run, engine.enter .idle)

end Engine

end Storyboard
