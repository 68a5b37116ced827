import Storyboard.Proofs.Engine.Retelling
/-!
# Corresponding runs

Two trees correspond if they have the same shape and each action of the one stands for the
action of the other at the same place. Corresponding trees are run the same up to a retelling,
from engines that have done the same and wherever the trees stand.

A collaborator's own steps may run triggers as well, so this is shown first under the assumption
that the runner keeps engines the same, then for single steps, and then to every depth.

Main results: `Retelling.SameEngine.runOf` for runs and `Retelling.runToDepth_keeps`.
-/

namespace Storyboard

open Engine

mutual

/-- Descriptors of the same shape whose actions stand for one another. -/
inductive Descriptor.Corresponds (stands : Action → Action → Prop) :
    Descriptor → Descriptor → Prop where
  | mk {action other : Action} {onSuccess otherSuccess onError otherError : Option Trigger}
      (acts : stands action other) (success : Trigger.NextCorresponds stands onSuccess otherSuccess)
      (error : Trigger.NextCorresponds stands onError otherError) :
      Descriptor.Corresponds stands (.mk action onSuccess onError)
        (.mk other otherSuccess otherError)

/-- Corresponding continuations, if there are any. -/
inductive Trigger.NextCorresponds (stands : Action → Action → Prop) :
    Option Trigger → Option Trigger → Prop where
  | none : Trigger.NextCorresponds stands none none
  | some {next other : Trigger} (corresponds : Trigger.Corresponds stands next other) :
      Trigger.NextCorresponds stands (some next) (some other)

inductive Trigger.Corresponds (stands : Action → Action → Prop) : Trigger → Trigger → Prop where
  | single {descriptor other : Descriptor}
      (corresponds : Descriptor.Corresponds stands descriptor other) :
      Trigger.Corresponds stands (.single descriptor) (.single other)
  | chain {descriptors others : List Descriptor}
      (corresponds : Descriptor.ListCorresponds stands descriptors others) :
      Trigger.Corresponds stands (.chain descriptors) (.chain others)

inductive Descriptor.ListCorresponds (stands : Action → Action → Prop) :
    List Descriptor → List Descriptor → Prop where
  | nil : Descriptor.ListCorresponds stands [] []
  | cons {descriptor other : Descriptor} {rest others : List Descriptor}
      (first : Descriptor.Corresponds stands descriptor other)
      (following : Descriptor.ListCorresponds stands rest others) :
      Descriptor.ListCorresponds stands (descriptor :: rest) (other :: others)

end

section Trees

variable {stands : Action → Action → Prop}

namespace Descriptor.Corresponds

variable {descriptor other : Descriptor}

theorem action (corresponds : descriptor.Corresponds stands other) :
    stands descriptor.action other.action := by
  cases corresponds with
  | mk acts success error => exact acts

theorem next? (corresponds : descriptor.Corresponds stands other) (edge : Edge) :
    Trigger.NextCorresponds stands (descriptor.next? edge) (other.next? edge) := by
  cases corresponds with
  | mk acts success error =>
      cases edge with
      | onSuccess => exact success
      | onError => exact error
      | item index => exact .none

theorem handled (corresponds : descriptor.Corresponds stands other) :
    other.onError.isSome = descriptor.onError.isSome := by
  cases corresponds with
  | mk acts success error =>
      cases error with
      | none => rfl
      | some next => rfl

end Descriptor.Corresponds

theorem Trigger.NextCorresponds.refl {next : Option Trigger}
    (corresponds : ∀ trigger : Trigger, next = Option.some trigger →
      trigger.Corresponds stands trigger) :
    Trigger.NextCorresponds stands next next := by
  cases next with
  | none => exact .none
  | some trigger => exact .some (corresponds trigger rfl)

theorem treeCases_corresponds (refl : ∀ action, stands action action) :
    TreeCases (fun descriptor => descriptor.Corresponds stands descriptor)
      (fun trigger => trigger.Corresponds stands trigger)
      (fun descriptors => Descriptor.ListCorresponds stands descriptors descriptors) where
  descriptor := by
    rintro ⟨action, onSuccess, onError⟩ corresponds
    exact .mk (refl action) (.refl (corresponds .onSuccess)) (.refl (corresponds .onError))
  single _ := .single
  chain _ := .chain
  nil := .nil
  cons _ _ := .cons

theorem Descriptor.Corresponds.refl (refl : ∀ action, stands action action)
    (descriptor : Descriptor) : descriptor.Corresponds stands descriptor :=
  Descriptor.induction (treeCases_corresponds refl) descriptor

theorem Trigger.Corresponds.refl (refl : ∀ action, stands action action) (trigger : Trigger) :
    trigger.Corresponds stands trigger :=
  Trigger.induction (treeCases_corresponds refl) trigger

theorem Descriptor.ListCorresponds.refl (refl : ∀ action, stands action action)
    (descriptors : List Descriptor) :
    Descriptor.ListCorresponds stands descriptors descriptors :=
  Descriptor.listInduction (treeCases_corresponds refl) descriptors

end Trees

namespace Engine

namespace Retelling

/-- The same run, of trees whose places may differ. -/
structure SameRun (retelling : Retelling) (places : List Edge → List Edge → Prop)
    (result other : Run × Engine) : Prop where
  outcome : other.1.outcome = result.1.outcome
  executed : List.Forall₂ (fun execution otherExecution =>
    places execution.place otherExecution.place ∧
      retelling.SameExecution execution otherExecution) result.1.executed other.1.executed
  engine : retelling.SameEngine result.2 other.2

/-- Places that differ only above some descriptor. -/
def Grows (places : List Edge → List Edge → Prop) : Prop :=
  ∀ ⦃place other : List Edge⦄ (edge : Edge),
    places place other → places (edge :: place) (edge :: other)

theorem Grows.anywhere : Grows fun _ _ => True := fun _ _ _ _ => trivial

variable {retelling : Retelling} {places : List Edge → List Edge → Prop}
  {engine other last otherLast : Engine} {runSteps : Runner}

theorem SameRun.after {run otherRun following otherFollowing : Run} {next otherNext : Engine}
    (first : retelling.SameRun places (run, next) (otherRun, otherNext))
    (second : retelling.SameRun places (following, last) (otherFollowing, otherLast)) :
    retelling.SameRun places (following.after run, last)
      (otherFollowing.after otherRun, otherLast) :=
  ⟨second.outcome, List.rel_append first.executed second.executed, second.engine⟩

/-- A list goes on in the same way once its first descriptor was run in the same way. -/
theorem SameRun.runList_cons {place otherPlace : List Edge} {scope otherScope : Scope}
    {index otherIndex : Nat} {before otherBefore : Option Json}
    {descriptor otherDescriptor : Descriptor} {rest others : List Descriptor}
    (first : retelling.SameRun places
      (descriptor.run runSteps (.item index :: place) scope engine)
      (otherDescriptor.run runSteps (.item otherIndex :: otherPlace) otherScope other))
    (goesOn : ∀ {engine other : Engine} output, retelling.SameEngine engine other →
      retelling.SameRun places
        (Descriptor.runList runSteps place scope (index + 1) output rest engine)
        (Descriptor.runList runSteps otherPlace otherScope (otherIndex + 1) output others other)) :
    retelling.SameRun places
      (Descriptor.runList runSteps place scope index before (descriptor :: rest) engine)
      (Descriptor.runList runSteps otherPlace otherScope otherIndex otherBefore
        (otherDescriptor :: others) other) := by
  cases returns : (descriptor.run runSteps (.item index :: place) scope engine).1.outcome with
  | ok output =>
      rw [Descriptor.runList_of_ok returns,
        Descriptor.runList_of_ok (first.outcome.trans returns)]
      exact first.after (goesOn output first.engine)
  | error fault =>
      rw [Descriptor.runList_of_error returns,
        Descriptor.runList_of_error (first.outcome.trans returns)]
      exact first

theorem SameScope.after {scope otherScope : Scope}
    (same : retelling.SameScope scope otherScope) (outcome : Outcome) :
    retelling.SameScope (scope.after outcome) (otherScope.after outcome) := by
  have depth := retelling.depth_succ same.depth
  cases outcome with
  | ok output => exact ⟨same.fields, congrArg (output <|> ·) same.response, same.error, depth⟩
  | error fault => exact ⟨same.fields, same.response, rfl, depth⟩

section Runs

variable (keeps : retelling.Keeps runSteps) (grows : Grows places)
include keeps grows

/-- A descriptor brings its own phase, so nothing is asked of the phase before it. -/
theorem treeCases_sameRun :
    TreeCases
      (fun descriptor => ∀ otherDescriptor,
        descriptor.Corresponds retelling.action otherDescriptor →
        ∀ {place otherPlace}, places place otherPlace →
        ∀ {scope otherScope}, retelling.SameScope scope otherScope →
        ∀ {engine other}, retelling.SameWork engine other →
          retelling.SameRun places (descriptor.run runSteps place scope engine)
            (otherDescriptor.run runSteps otherPlace otherScope other))
      (fun trigger => ∀ otherTrigger, trigger.Corresponds retelling.action otherTrigger →
        ∀ {place otherPlace}, places place otherPlace →
        ∀ {scope otherScope}, retelling.SameScope scope otherScope →
        ∀ {engine other}, retelling.SameEngine engine other →
          retelling.SameRun places (trigger.run runSteps place scope engine)
            (otherTrigger.run runSteps otherPlace otherScope other))
      (fun descriptors => ∀ others,
        Descriptor.ListCorresponds retelling.action descriptors others →
        ∀ {place otherPlace index otherIndex},
          (∀ item,
            places (.item (index + item) :: place) (.item (otherIndex + item) :: otherPlace)) →
        ∀ {scope otherScope}, retelling.SameScope scope otherScope →
        ∀ {engine other} last, retelling.SameEngine engine other →
          retelling.SameRun places
            (Descriptor.runList runSteps place scope index last descriptors engine)
            (Descriptor.runList runSteps otherPlace otherScope otherIndex last others other)) where
  descriptor descriptor runs otherDescriptor corresponds place otherPlace stand scope otherScope
      scopes engine other same := by
    have agree := same.execute keeps place otherPlace scopes corresponds.action
      descriptor.onError.isSome
    rcases executes : execute runSteps place scope descriptor.action descriptor.onError.isSome
      engine with ⟨execution, executed⟩
    rcases otherExecutes : execute runSteps otherPlace otherScope otherDescriptor.action
      descriptor.onError.isSome other with ⟨otherExecution, otherExecuted⟩
    rw [executes, otherExecutes] at agree
    rw [← corresponds.handled] at otherExecutes
    rcases agree with ⟨sameExecution, settled⟩
    have outcome : otherExecution.outcome = execution.outcome := sameExecution.outcome
    have here : places execution.place otherExecution.place := by
      rw [(execute_records executes).1, (execute_records otherExecutes).1]
      exact stand
    have continues := corresponds.next? (Edge.after execution.outcome)
    generalize goesOn : descriptor.next? (Edge.after execution.outcome) = continuation,
      otherGoesOn : otherDescriptor.next? (Edge.after execution.outcome) = otherContinuation
      at continues
    rw [← outcome] at otherGoesOn
    cases continues with
    | none =>
        rw [Descriptor.run_of_next?_none executes goesOn,
          Descriptor.run_of_next?_none otherExecutes otherGoesOn]
        exact ⟨outcome, .cons ⟨here, sameExecution⟩ .nil, settled⟩
    | some continues =>
        rw [Descriptor.run_of_next?_some executes goesOn rfl,
          Descriptor.run_of_next?_some otherExecutes otherGoesOn rfl, outcome]
        have ran := runs _ _ goesOn _ continues (grows (Edge.after execution.outcome) stand)
          (scopes.after execution.outcome) settled
        exact ⟨ran.outcome, .cons ⟨here, sameExecution⟩ ran.executed, ran.engine⟩
  single descriptor runs otherTrigger corresponds place otherPlace stand scope otherScope scopes
      engine other same := by
    cases corresponds with
    | single corresponds =>
        rw [Trigger.run_single, Trigger.run_single]
        have ran := runs _ corresponds stand scopes same.toSameWork
        exact ⟨ran.outcome, ran.executed, ran.engine⟩
  chain descriptors runs otherTrigger corresponds place otherPlace stand scope otherScope scopes
      engine other same := by
    cases corresponds with
    | chain corresponds =>
        rw [Trigger.run_chain, Trigger.run_chain]
        have ran := runs _ corresponds (fun item => grows (.item (0 + item)) stand) scopes none same
        exact ⟨ran.outcome, ran.executed, ran.engine⟩
  nil others corresponds place otherPlace index otherIndex stand scope otherScope scopes engine
      other last same := by
    cases corresponds
    rw [Descriptor.runList, Descriptor.runList]
    exact ⟨rfl, .nil, same⟩
  cons descriptor rest runs goesOn others corresponds place otherPlace index otherIndex stand scope
      otherScope scopes engine other last same := by
    cases corresponds with
    | cons first following =>
        apply SameRun.runList_cons
        · exact runs _ first (stand 0) scopes same.toSameWork
        · intro _ _ output same
          apply goesOn _ following _ scopes output same
          intro item
          simpa only [Nat.add_assoc, Nat.add_comm 1 item] using stand (item + 1)

/-- A list that is not empty brings its own phase, and does not return what came before it. -/
theorem SameWork.runList (same : retelling.SameWork engine other) {place otherPlace : List Edge}
    {index otherIndex : Nat}
    (stand : ∀ item,
      places (.item (index + item) :: place) (.item (otherIndex + item) :: otherPlace))
    {scope otherScope : Scope} (scopes : retelling.SameScope scope otherScope)
    (before otherBefore : Option Json) (next : Descriptor) (rest : List Descriptor) :
    retelling.SameRun places
      (Descriptor.runList runSteps place scope index before (next :: rest) engine)
      (Descriptor.runList runSteps otherPlace otherScope otherIndex otherBefore (next :: rest)
        other) := by
  have tree := treeCases_sameRun keeps grows
  rcases Descriptor.ListCorresponds.refl retelling.action_refl (next :: rest) with
    _ | ⟨first, following⟩
  apply SameRun.runList_cons
  · exact Descriptor.induction tree next next first (stand 0) scopes same
  · intro _ _ output same
    apply Descriptor.listInduction tree rest rest following _ scopes output same
    intro item
    simpa only [Nat.add_assoc, Nat.add_comm 1 item] using stand (item + 1)

end Runs

section Steps

variable (keeps : retelling.Keeps runSteps)
include keeps

/-- Corresponding triggers are run in the same way, whichever places are compared. -/
theorem SameEngine.runOf (grows : Grows places) (start : places [] [])
    (same : retelling.SameEngine engine other) {trigger otherTrigger : Trigger}
    (corresponds : trigger.Corresponds retelling.action otherTrigger) (fields : Fields) :
    retelling.SameRun places (engine.run runSteps trigger fields)
      (other.run runSteps otherTrigger fields) := by
  have ran := Trigger.induction (treeCases_sameRun keeps grows) trigger otherTrigger corresponds
    start (.refl { fields }) same
  exact ⟨ran.outcome, ran.executed, ran.engine.toSameWork.enter (retelling.phase_refl .idle)⟩

theorem SameEngine.run (same : retelling.SameEngine engine other) (trigger : Trigger)
    (fields : Fields) :
    (other.run runSteps trigger fields).1.outcome = (engine.run runSteps trigger fields).1.outcome ∧
      retelling.SameEngine (engine.run runSteps trigger fields).2
        (other.run runSteps trigger fields).2 := by
  have ran := same.runOf keeps .anywhere trivial
    (.refl retelling.action_refl trigger) fields
  exact ⟨ran.outcome, ran.engine⟩

theorem SameEngine.dispatch (same : retelling.SameEngine engine other) (action : Json)
    (fields : Fields) :
    retelling.SameResult (engine.dispatch runSteps action fields)
      (other.dispatch runSteps action fields) := by
  unfold Engine.dispatch
  cases Trigger.ofJson action with
  | error fault => exact ⟨rfl, same.send (.diagnostic .error fault.message)⟩
  | ok trigger => exact ⟨(same.run keeps trigger fields).1, (same.run keeps trigger fields).2⟩

theorem SameEngine.handle (same : retelling.SameEngine engine other) (event : Event) :
    retelling.SameResult (engine.handle runSteps event) (other.handle runSteps event) := by
  cases event with
  | actionTriggered action fields =>
      rcases same.dispatch keeps action fields with ⟨value, dispatched⟩
      exact ⟨congrArg (Except.map fun _ => ()) value, dispatched⟩
  | backPressed =>
      rcases same.run keeps backAction [] with ⟨outcome, ran⟩
      exact ⟨congrArg (Except.map fun _ => ()) outcome, ran⟩
  | flowStateChanged flow state =>
      exact ⟨rfl, same.move (f := fun engine =>
        { engine with context := engine.context.setFlowState flow state }) fun _ => rfl⟩
  | logoutRequested => exact ⟨rfl, same.logout⟩

theorem SameEngine.askRegistry (same : retelling.SameEngine engine other)
    (request : Registry.Request Step) :
    retelling.SameResult (engine.askRegistry runSteps request)
      (other.askRegistry runSteps request) := by
  cases request with
  | execute name params =>
      rcases same.callHandler keeps name params with ⟨value, called⟩
      exact ⟨congrArg Registry.Answer.outcome value, called⟩
  | _ => exact same.ask (f := fun engine => engine.askRegistry runSteps _) fun _ => rfl

/-- A step is answered the same. -/
theorem SameEngine.take (same : retelling.SameEngine engine other) (step : Step) :
    retelling.SameResult (Engine.take runSteps step engine) (Engine.take runSteps step other) := by
  cases step with
  | event value =>
      cases found : Event.ofJson? value with
      | none =>
          simp only [Engine.take, found]
          exact ⟨rfl, same⟩
      | some event =>
          rcases same.handle keeps event with ⟨handled, last⟩
          simp only [Engine.take, found]
          exact ⟨congrArg Answer.handled handled, last⟩
  | dispatch action fields =>
      rcases same.dispatch keeps action fields with ⟨value, dispatched⟩
      exact ⟨congrArg Answer.outcome value, dispatched⟩
  | screen fields =>
      rcases same.currentScreen fields with ⟨value, shown⟩
      exact ⟨congrArg Answer.screen value, shown⟩
  | set key value => exact ⟨rfl, same.setValue key value⟩
  | drop key =>
      rcases same.dropValue key with ⟨value, dropped⟩
      exact ⟨congrArg Answer.flag value, dropped⟩
  | logout => exact ⟨rfl, same.logout⟩
  | restore name =>
      have backups := same.reads (f := Engine.backups) fun _ => rfl
      cases found : engine.backups.get? name with
      | none =>
          simp only [Engine.take, backups, found]
          exact ⟨rfl, same⟩
      | some backup =>
          simp only [Engine.take, backups, found]
          exact ⟨rfl, same.restore backup⟩
  | registry request =>
      rcases same.askRegistry keeps request with ⟨value, asked⟩
      exact ⟨congrArg Answer.registry value, asked⟩
  | _ => exact same.ask (f := fun engine => Engine.take runSteps _ engine) fun _ => rfl

/-- What is observed of a step, and of those that follow it. -/
theorem SameEngine.takeObserved (same : retelling.SameEngine engine other) (step : Step)
    {entries otherEntries : List Entry} (following : retelling.SameEntries entries otherEntries) :
    retelling.SameEntries ((Engine.takeObserved runSteps step engine).1 :: entries)
        ((Engine.takeObserved runSteps step other).1 :: otherEntries) ∧
      retelling.SameEngine (Engine.takeObserved runSteps step engine).2
        (Engine.takeObserved runSteps step other).2 := by
  have asked := (same.mark (.same (.asked step))).setCalls (.same [])
  rcases (asked.take keeps step).exists with ⟨answer, next, otherNext, takes, otherTakes, taken⟩
  have listening := taken.reads (f := Engine.listening) fun _ => rfl
  have reads := taken.reads (f := fun engine => engine.library.reads) fun _ => rfl
  refine ⟨?_, ?_⟩
  · simp only [Engine.takeObserved, takes, otherTakes, Engine.observe, listening, reads]
    refine .cons _ _ ?_ taken.calls taken.snapshot following
    cases next.listening with
    | false => exact .none
    | true => exact .some taken.unobserved
  · simp only [Engine.takeObserved, takes, otherTakes]
    exact ((taken.observe (some answer)).setCalls same.calls).mark (.same (.answered step answer))

theorem Keeps.runAll : retelling.Keeps (Engine.runAll runSteps) := by
  intro engine other same steps
  induction steps generalizing engine other with
  | nil => exact ⟨.nil, same⟩
  | cons step rest ih =>
      have taken := (same.takeObserved keeps step .nil).2
      rcases ih taken with ⟨entries, last⟩
      exact ⟨(same.takeObserved keeps step entries).1, last⟩

end Steps

/-- Collaborators take the same steps on engines that have done the same, to whatever depth. -/
theorem runToDepth_keeps (retelling : Retelling) (depth : Nat) :
    retelling.Keeps (runToDepth depth) := by
  induction depth with
  | zero => exact fun _ _ same _ => ⟨.nil, same⟩
  | succ depth ih => exact Keeps.runAll ih

end Retelling

end Engine

end Storyboard
