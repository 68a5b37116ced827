import Storyboard.Proofs.Context
import Storyboard.Proofs.Engine.Move
import Storyboard.Proofs.Navigation
import Storyboard.Proofs.Run.Basic
/-!
# Going back

Going back cannot fail. It takes frames off the stack and, if the data is to be cleared, empties
the session and forgets the flows that the user has left for good: those that own no frame below
the cut, whatever they owned above it. It touches nothing else. The renderer hears of the cleared
session, and of the current screen if that is another one.

Main result: `goBack_returns`.
-/

namespace Storyboard

namespace Engine

/-- What is promised of an engine that went back over the frames `removed`. -/
structure Returns (steps : Nat) (clearData : Bool) (removed : List Frame)
    (engine after : Engine) : Prop where
  /-- The bottom frame is never removed. -/
  count : removed.length = min steps (engine.context.navigation.depth - 1)
  stack : engine.context.navigation.fromTop = removed ++ after.context.navigation.fromTop
  empties : clearData = true → after.context.session.data = []
  /-- A flow keeps its state as long as it owns a frame. -/
  forgets : clearData = true → ∀ flow, after.context.flowStates.get? flow =
    if ∃ frame ∈ after.context.navigation.fromTop, frame.flow = flow then
      engine.context.flowStates.get? flow
    else none
  keeps : clearData = false → after.context.session = engine.context.session ∧
    after.context.flowStates = engine.context.flowStates
  tells : after.sent.reverse = engine.sent.reverse ++
    (if clearData then [.sessionCleared] else []) ++
    (if removed = [] then [] else [after.location])
  /-- Nothing else changes but the account of what happened. -/
  untouched : ∃ context sent phases history,
    after = { engine with context, sent, phases, history }

/-- Where the user got to is a matter of the context, what the renderer heard one of the
messages. -/
theorem Returns.of_context {engine after : Engine} {steps : Nat} {clearData : Bool}
    (context : after.context = (engine.context.goBack steps clearData).2)
    (sent : after.sent = (engine.goBack steps clearData).1.messages.reverse ++ engine.sent)
    (untouched : ∃ context sent phases history,
      after = { engine with context, sent, phases, history }) :
    Returns steps clearData (engine.context.navigation.goBack steps).1 engine after := by
  have navigation : after.context.navigation = (engine.context.navigation.goBack steps).2 := by
    rw [context, Context.goBack_navigation]
  have removes := engine.context.navigation.goBack_removes steps
  refine ⟨removes.1, ?_, ?_, ?_, ?_, ?_, untouched⟩
  · rw [navigation]
    exact removes.2
  · intro clear
    simp [context, clear]
  · intro clear flow
    simp only [← BackStack.holdsFlow_iff]
    rw [context, Context.goBack_flowStates, if_pos clear, Table.get?_restrict]
  · intro keep
    simp [context, keep, Context.goBack_flowStates]
  · have location : after.location = (engine.goBack steps clearData).2.location := by
      rw [location, context]
      rfl
    rw [sent, location]
    simp [goBack]

/-- The stages of an action that goes back leave nothing but its effect behind. -/
theorem execute_goBack (runSteps : Runner) (place : List Edge) (scope : Scope) (steps : Nat)
    (clearData handled : Bool) (engine : Engine) :
    ∃ phases history, execute runSteps place scope (.goBack steps clearData) handled engine =
      (⟨place, scope, .goBack steps clearData, .ok none,
          (engine.goBack steps clearData).1.messages, handled⟩,
        { engine with
          context := (engine.context.goBack steps clearData).2
          sent := (engine.goBack steps clearData).1.messages.reverse ++ engine.sent
          phases, history }) := by
  rw [execute_eq]
  simp only [Action.resolve, perform, sendAll_eq]
  exact ⟨_, _, rfl⟩

/-- The back button executes one action and then nothing runs. -/
theorem handle_backPressed (runSteps : Runner) (engine : Engine) :
    engine.handle runSteps .backPressed =
      let (execution, after) := execute runSteps [] { fields := [] } (.goBack 1 false) false engine
      (execution.outcome.map fun _ => (), after.enter .idle) := by
  rcases execute_goBack runSteps [] { fields := [] } 1 false false engine with
    ⟨phases, history, executes⟩
  have runs := @Descriptor.run_of_next?_none (.mk (.goBack 1 false) none none) runSteps [] _ engine
    _ _ executes rfl
  simp only [handle, run, backAction, Trigger.run_single, runs, executes]
  rfl

/-- Going back never fails and does what is promised, as an action at any place of a run and as
the back button, which goes back by one frame and clears nothing. -/
theorem goBack_returns (runSteps : Runner) (engine : Engine) :
    (∀ place scope steps clearData handled,
      (execute runSteps place scope (.goBack steps clearData) handled engine).1.outcome =
          .ok none ∧
        ∃ removed, Returns steps clearData removed engine
          (execute runSteps place scope (.goBack steps clearData) handled engine).2) ∧
    (engine.handle runSteps .backPressed).1 = .ok () ∧
      ∃ removed, Returns 1 false removed engine (engine.handle runSteps .backPressed).2 := by
  constructor
  · intro place scope steps clearData handled
    rcases execute_goBack runSteps place scope steps clearData handled engine with
      ⟨phases, history, executes⟩
    rw [executes]
    exact ⟨rfl, _, .of_context rfl rfl ⟨_, _, _, _, rfl⟩⟩
  · rcases execute_goBack runSteps [] { fields := [] } 1 false false engine with
      ⟨phases, history, executes⟩
    rw [handle_backPressed, executes]
    exact ⟨rfl, _, .of_context rfl rfl ⟨_, _, _, _, rfl⟩⟩

end Engine

end Storyboard
