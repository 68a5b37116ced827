import Storyboard.Callback.Registry
/-!
# A registry under its own handlers

Handlers may use the registry that they are registered with: replace, remove or call
themselves and each other. This module runs requests to a registry on its own. Steps
that a handler takes are run one level deeper, down to a given depth; below it handlers
take no steps. Both the steps and the answer of a handler are fixed beforehand
(`Callback.Handler`), so neither depends on what the steps inside a call came to.
-/

namespace Storyboard

namespace Registry

/-- A step on a registry. -/
inductive Step where
  | ask (request : Request Step)
  /-- A step of an unknown kind. -/
  | unknown

/-- One call of a handler as it was observed; `E` are the observations of the steps that
the handler took. -/
structure Call (E : Type) where
  name : String
  params : Option Fields
  during : Option (List E)

/-- What was observed of a step: its answer, the names registered after it, and the calls
made in it. -/
inductive Entry where
  | mk (answer : Answer) (names : List String) (calls : List (Call Entry))

/-- Runs a handler's own steps. -/
abbrev Runner := List Step → Registry Step → List Entry × Registry Step

/-- Calls the handler of a name. -/
def execute (runSteps : Runner) (name : String) (params : Option Fields)
    (registry : Registry Step) :
    Except Fault (Option Json) × List (Call Entry) × Registry Step :=
  match registry.get? name with
  | none => (.error (.unknownCallback name), [], registry)
  | some handler =>
    let invocation := handler.invoke runSteps name params registry
    (invocation.outcome, [⟨name, params, invocation.during⟩], invocation.world)

/-- Takes one step. -/
def Step.run (runSteps : Runner) (step : Step) (registry : Registry Step) :
    Entry × Registry Step :=
  match step with
  | .ask (.register name handler) =>
    let registry := registry.put name handler
    (.mk .done registry.keys [], registry)
  | .ask (.unregister name) =>
    let known := registry.contains name
    let registry := registry.erase name
    (.mk (.flag known) registry.keys [], registry)
  | .ask .clear => (.mk .done [] [], [])
  | .ask (.isRegistered name) => (.mk (.flag (registry.contains name)) registry.keys [], registry)
  | .ask .names => (.mk (.names registry.keys) registry.keys [], registry)
  | .ask (.execute name params) =>
    let (outcome, calls, registry) := execute runSteps name params registry
    (.mk (.outcome outcome) registry.keys calls, registry)
  | .unknown => (.mk .unknown registry.keys [], registry)

/-- Takes steps in order. -/
def runAll (runSteps : Runner) : List Step → Registry Step → List Entry × Registry Step
  | [], registry => ([], registry)
  | step :: rest, registry =>
    let (entry, registry) := step.run runSteps registry
    let (entries, registry) := runAll runSteps rest registry
    (entry :: entries, registry)

/-- Takes steps in order, handlers taking theirs down to a depth. -/
def runToDepth : Nat → Runner
  | 0 => fun _ registry => ([], registry)
  | depth + 1 => runAll (runToDepth depth)

end Registry

end Storyboard
