import Storyboard.Engine.Run
/-!
# Runs

A descriptor is run by executing its action and then, if there is one, the continuation that
the outcome asks for. The equations below say so with a single case for both continuations.
`Trigger.induction` is the induction over a tree, and `Trigger.run_induction` the induction over
its run, with one case for each way in which a run goes on.
-/

namespace Storyboard

open Engine

namespace Engine

/-- The stages of executing an action: it is resolved, announced, performed and told of. -/
theorem execute_eq (runSteps : Runner) (place : List Edge) (scope : Scope) (action : Action)
    (handled : Bool) (engine : Engine) :
    execute runSteps place scope action handled engine =
      let resolved :=
        action.resolve (engine.context.scopes scope.fields scope.response scope.error)
      let ready :=
        (engine.enter (.executing resolved.tag scope.depth)).mark (.executing resolved)
      let (effect, performed) := perform runSteps resolved ready
      let settled :=
        (performed.sendAll effect.messages).enter (settled resolved.tag effect.outcome)
      (⟨place, scope, resolved, effect.outcome, effect.messages, handled⟩,
        (settled.sendAll (diagnostics resolved.tag handled effect.outcome)).mark
          (.executed resolved effect.outcome)) := rfl

/-- The edge to the continuation that an outcome asks for. -/
def Edge.after : Outcome → Edge
  | .ok _ => .onSuccess
  | .error _ => .onError

/-- The scope in which the continuation runs. -/
def Scope.after (scope : Scope) : Outcome → Scope
  | .ok output => scope.afterSuccess output
  | .error fault => scope.afterFailure fault

end Engine

/-- The continuation at an edge. -/
def Descriptor.next? (descriptor : Descriptor) : Edge → Option Trigger
  | .onSuccess => descriptor.onSuccess
  | .onError => descriptor.onError
  | .item _ => none

theorem Descriptor.run_of_next?_none {descriptor : Descriptor} {runSteps : Runner}
    {place : List Edge} {scope : Scope} {engine executed : Engine} {execution : Execution}
    (executes : execute runSteps place scope descriptor.action descriptor.onError.isSome engine =
      (execution, executed))
    (stops : descriptor.next? (Edge.after execution.outcome) = none) :
    descriptor.run runSteps place scope engine =
      ((Run.ofExecution execution).returnedAt place, executed) := by
  rcases descriptor with ⟨action, onSuccess, onError⟩
  simp only [Descriptor.action, Descriptor.onError] at executes
  rw [Descriptor.run, executes]
  cases outcome : execution.outcome with
  | ok output =>
      rw [outcome] at stops
      cases onSuccess with
      | none => simp only [outcome]
      | some next => cases stops
  | error fault =>
      rw [outcome] at stops
      cases onError with
      | none => simp only [outcome]
      | some next => cases stops

theorem Descriptor.run_of_next?_some {descriptor : Descriptor} {runSteps : Runner}
    {place : List Edge} {scope : Scope} {engine executed last : Engine}
    {execution : Execution} {next : Trigger} {run : Run}
    (executes : execute runSteps place scope descriptor.action descriptor.onError.isSome engine =
      (execution, executed))
    (goesOn : descriptor.next? (Edge.after execution.outcome) = some next)
    (runs : next.run runSteps (Edge.after execution.outcome :: place)
      (scope.after execution.outcome) executed = (run, last)) :
    descriptor.run runSteps place scope engine =
      ((run.after (.ofExecution execution)).returnedAt place, last) := by
  rcases descriptor with ⟨action, onSuccess, onError⟩
  simp only [Descriptor.action, Descriptor.onError] at executes
  rw [Descriptor.run, executes]
  cases outcome : execution.outcome with
  | ok output =>
      rw [outcome] at goesOn runs
      cases onSuccess with
      | none => cases goesOn
      | some continuation =>
          cases goesOn
          simp only [Edge.after, Scope.after] at runs
          simp only [outcome, runs]
  | error fault =>
      rw [outcome] at goesOn runs
      cases onError with
      | none => cases goesOn
      | some continuation =>
          cases goesOn
          simp only [Edge.after, Scope.after] at runs
          simp only [outcome, runs]

/-- What an induction over trees has to show of descriptors, triggers and lists. -/
structure TreeCases (D : Descriptor → Prop) (T : Trigger → Prop)
    (L : List Descriptor → Prop) : Prop where
  descriptor : ∀ descriptor : Descriptor,
    (∀ edge next, descriptor.next? edge = some next → T next) → D descriptor
  single : ∀ descriptor, D descriptor → T (.single descriptor)
  chain : ∀ descriptors, L descriptors → T (.chain descriptors)
  nil : L []
  cons : ∀ descriptor rest, D descriptor → L rest → L (descriptor :: rest)

section Induction

variable {D : Descriptor → Prop} {T : Trigger → Prop} {L : List Descriptor → Prop}

mutual

theorem Descriptor.induction (tree : TreeCases D T L) : ∀ descriptor : Descriptor, D descriptor
  | .mk action onSuccess onError => by
      apply tree.descriptor
      intro edge next goesOn
      cases edge with
      | onSuccess =>
          cases onSuccess with
          | none => cases goesOn
          | some continuation =>
              have same : continuation = next := Option.some.inj goesOn
              exact same ▸ Trigger.induction tree continuation
      | onError =>
          cases onError with
          | none => cases goesOn
          | some continuation =>
              have same : continuation = next := Option.some.inj goesOn
              exact same ▸ Trigger.induction tree continuation
      | item index => cases goesOn

theorem Trigger.induction (tree : TreeCases D T L) : ∀ trigger : Trigger, T trigger
  | .single descriptor => tree.single descriptor (Descriptor.induction tree descriptor)
  | .chain descriptors => tree.chain descriptors (Descriptor.listInduction tree descriptors)

theorem Descriptor.listInduction (tree : TreeCases D T L) :
    ∀ descriptors : List Descriptor, L descriptors
  | [] => tree.nil
  | descriptor :: rest =>
      tree.cons descriptor rest (Descriptor.induction tree descriptor)
        (Descriptor.listInduction tree rest)

end

end Induction

theorem Trigger.run_single (runSteps : Runner) (place : List Edge) (scope : Scope)
    (descriptor : Descriptor) (engine : Engine) :
    (Trigger.single descriptor).run runSteps place scope engine =
      ((descriptor.run runSteps place scope engine).1.startedAt place,
        (descriptor.run runSteps place scope engine).2) := by
  rw [Trigger.run]

theorem Trigger.run_chain (runSteps : Runner) (place : List Edge) (scope : Scope)
    (descriptors : List Descriptor) (engine : Engine) :
    (Trigger.chain descriptors).run runSteps place scope engine =
      ((Descriptor.runList runSteps place scope 0 none descriptors engine).1.startedAt place,
        (Descriptor.runList runSteps place scope 0 none descriptors engine).2) := by
  rw [Trigger.run]

/-- A list goes on after a descriptor that returned without a fault. -/
theorem Descriptor.runList_of_ok {runSteps : Runner} {place : List Edge} {scope : Scope}
    {index : Nat} {last : Option Json} {descriptor : Descriptor} {rest : List Descriptor}
    {engine : Engine} {output : Option Json}
    (returns : (descriptor.run runSteps (.item index :: place) scope engine).1.outcome =
      .ok output) :
    Descriptor.runList runSteps place scope index last (descriptor :: rest) engine =
      let (run, next) := descriptor.run runSteps (.item index :: place) scope engine
      let (following, after) :=
        Descriptor.runList runSteps place scope (index + 1) output rest next
      (following.after run, after) := by
  rw [Descriptor.runList]
  simp only [returns]

/-- A list ends with a descriptor that returned with a fault. -/
theorem Descriptor.runList_of_error {runSteps : Runner} {place : List Edge} {scope : Scope}
    {index : Nat} {last : Option Json} {descriptor : Descriptor} {rest : List Descriptor}
    {engine : Engine} {fault : Fault}
    (returns : (descriptor.run runSteps (.item index :: place) scope engine).1.outcome =
      .error fault) :
    Descriptor.runList runSteps place scope index last (descriptor :: rest) engine =
      descriptor.run runSteps (.item index :: place) scope engine := by
  rw [Descriptor.runList]
  simp only [returns]

/-- What an induction over runs has to show of the runs of descriptors, triggers and lists,
each from the engine that it found to the engine that it left. -/
structure RunCases (runSteps : Runner)
    (D : Descriptor → List Edge → Scope → Engine → Run → Engine → Prop)
    (T : Trigger → List Edge → Scope → Engine → Run → Engine → Prop)
    (L : List Descriptor → List Edge → Scope → Nat → Engine → Run → Engine → Prop) :
    Prop where
  stops : ∀ {descriptor : Descriptor} {place scope engine execution executed},
    execute runSteps place scope descriptor.action descriptor.onError.isSome engine =
      (execution, executed) →
    descriptor.next? (Edge.after execution.outcome) = none →
    D descriptor place scope engine ((Run.ofExecution execution).returnedAt place) executed
  continues : ∀ {descriptor : Descriptor} {place scope engine execution executed next run last},
    execute runSteps place scope descriptor.action descriptor.onError.isSome engine =
      (execution, executed) →
    descriptor.next? (Edge.after execution.outcome) = some next →
    T next (Edge.after execution.outcome :: place) (scope.after execution.outcome) executed run
      last →
    D descriptor place scope engine ((run.after (.ofExecution execution)).returnedAt place) last
  single : ∀ {descriptor place scope engine run last}, D descriptor place scope engine run last →
    T (.single descriptor) place scope engine (run.startedAt place) last
  chain : ∀ {descriptors place scope engine run last},
    L descriptors place scope 0 engine run last →
    T (.chain descriptors) place scope engine (run.startedAt place) last
  nil : ∀ place scope index output engine,
    L [] place scope index engine ⟨.ok output, [], [], []⟩ engine
  cons : ∀ {descriptor rest place scope index engine run next output following last},
    D descriptor (.item index :: place) scope engine run next → run.outcome = .ok output →
    L rest place scope (index + 1) next following last →
    L (descriptor :: rest) place scope index engine (following.after run) last
  fails : ∀ {descriptor rest place scope index engine run fault last},
    D descriptor (.item index :: place) scope engine run last → run.outcome = .error fault →
    L (descriptor :: rest) place scope index engine run last

section RunInduction

variable {runSteps : Runner}
  {D : Descriptor → List Edge → Scope → Engine → Run → Engine → Prop}
  {T : Trigger → List Edge → Scope → Engine → Run → Engine → Prop}
  {L : List Descriptor → List Edge → Scope → Nat → Engine → Run → Engine → Prop}

theorem RunCases.tree (cases : RunCases runSteps D T L) :
    TreeCases
      (fun descriptor => ∀ place scope engine,
        D descriptor place scope engine (descriptor.run runSteps place scope engine).1
          (descriptor.run runSteps place scope engine).2)
      (fun trigger => ∀ place scope engine,
        T trigger place scope engine (trigger.run runSteps place scope engine).1
          (trigger.run runSteps place scope engine).2)
      (fun descriptors => ∀ place scope index last engine,
        L descriptors place scope index engine
          (Descriptor.runList runSteps place scope index last descriptors engine).1
          (Descriptor.runList runSteps place scope index last descriptors engine).2) where
  descriptor descriptor runs place scope engine := by
    rcases executes : execute runSteps place scope descriptor.action descriptor.onError.isSome
      engine with ⟨execution, executed⟩
    cases goesOn : descriptor.next? (Edge.after execution.outcome) with
    | none =>
        rw [Descriptor.run_of_next?_none executes goesOn]
        exact cases.stops executes goesOn
    | some next =>
        rw [Descriptor.run_of_next?_some executes goesOn rfl]
        exact cases.continues executes goesOn (runs _ next goesOn _ _ executed)
  single descriptor runs place scope engine := by
    rw [Trigger.run_single]
    exact cases.single (runs place scope engine)
  chain descriptors runs place scope engine := by
    rw [Trigger.run_chain]
    exact cases.chain (runs place scope 0 none engine)
  nil place scope index last engine := by
    rw [Descriptor.runList]
    exact cases.nil place scope index last engine
  cons descriptor rest runs goesOn place scope index last engine := by
    have first := runs (.item index :: place) scope engine
    cases returns :
      (descriptor.run runSteps (.item index :: place) scope engine).1.outcome with
    | ok output =>
        rw [Descriptor.runList_of_ok returns]
        exact cases.cons first returns (goesOn place scope (index + 1) output _)
    | error fault =>
        rw [Descriptor.runList_of_error returns]
        exact cases.fails first returns

theorem Trigger.run_induction (cases : RunCases runSteps D T L) (trigger : Trigger)
    (place : List Edge) (scope : Scope) (engine : Engine) :
    T trigger place scope engine (trigger.run runSteps place scope engine).1
      (trigger.run runSteps place scope engine).2 :=
  Trigger.induction cases.tree trigger place scope engine

end RunInduction

end Storyboard
