import Storyboard.Proofs.Engine.Always
/-!
# Failed actions change nothing

An action checks everything that can go wrong before it writes anything. One that fails leaves
the engine as it found it, or as the steps left it that its collaborator took meanwhile, and it
tells the renderer nothing. It may have loaded a flow, and that stays loaded.

Main result: `failed_changesNothing`.
-/

namespace Storyboard

namespace Engine

def loads? (engine : Engine) : Action → Option String
  | .navigate _ => some engine.context.current.flow
  | .navigateToFlow flow _ _ => some flow
  | _ => none

/-- What is promised of a failed action: it sends nothing, and it leaves the engine as the
collaborator's steps left it, if there were any, and as it found it otherwise. Only the flows
that the library keeps may differ, by the one flow that the action loads, and what was noted
of reads, calls and moments. -/
structure ChangesNothing (runSteps : Runner) (action : Action) (engine : Engine)
    (effect : Effect) (after : Engine) : Prop where
  silent : effect.messages = []
  /-- Before the collaborator takes its steps, only the network has changed. -/
  waits : ∃ replies history, (engine.waitFor action).engine = { engine with replies, history }
  leaves : ∃ kept reads calls history,
    let left := (engine.waitFor action).left runSteps
    after = { left with library := { left.library with kept, reads }, calls, history } ∧
      (∀ id, engine.loads? action ≠ some id → kept.get? id = left.library.kept.get? id) ∧
      ∀ id flow, left.library.kept.get? id = some flow → kept.get? id = some flow
  context : after.context = ((engine.waitFor action).left runSteps).context
  alone : (engine.waitFor action).during = none → after.context = engine.context

variable {runSteps : Runner}

/-- What a load leaves behind: at most one more flow is kept, and none is dropped. -/
theorem load_leaves (engine : Engine) (flow : String) :
    ∃ kept reads, (engine.load flow).2 =
        { engine.mark (.loading flow) with
          library := { engine.library with kept, reads } } ∧
      (∀ id, some flow ≠ some id → kept.get? id = engine.library.kept.get? id) ∧
      ∀ id found, engine.library.kept.get? id = some found → kept.get? id = some found := by
  rw [load_eq, Library.load]
  rcases Library.loadFrom_cases engine.library flow (engine.library.sources.pathFor flow) with
    ⟨found, -, loaded⟩ | ⟨absent, ⟨found, -, loaded⟩ | ⟨fault, -, loaded⟩⟩
  · rw [loaded]
    exact ⟨_, _, rfl, fun _ _ => rfl, fun _ _ => id⟩
  · rw [loaded]
    refine ⟨_, _, rfl, ?_, ?_⟩
    · intro id distinct
      apply Table.get?_put_of_ne
      rintro rfl
      exact distinct rfl
    · intro id other kept
      have distinct : id ≠ flow := by
        rintro rfl
        rw [absent] at kept
        cases kept
      exact (Table.get?_put_of_ne distinct _ found).trans kept
  · rw [loaded]
    exact ⟨_, _, rfl, fun _ _ => rfl, fun _ _ => id⟩

theorem ChangesNothing.of_load {action : Action} {engine : Engine} {flow : String}
    {fault : Fault} (waits : engine.waitFor action = ⟨engine, none⟩)
    (loads : engine.loads? action = some flow) :
    ChangesNothing runSteps action engine { outcome := .error fault } (engine.load flow).2 := by
  rcases load_leaves engine flow with ⟨kept, reads, loaded, others, keeps⟩
  refine ⟨rfl, ?_, ?_, ?_, ?_⟩
  · rw [waits]
    exact ⟨engine.replies, engine.history, rfl⟩
  · rw [waits, loads]
    exact ⟨kept, reads, _, _, loaded, others, keeps⟩
  · rw [waits]
    rfl
  · intro _
    rfl

theorem ChangesNothing.of_wait {action : Action} {engine after : Engine} {effect : Effect}
    (silent : effect.messages = [])
    (waits : ∃ replies history, (engine.waitFor action).engine = { engine with replies, history })
    (leaves : ∃ calls, after = { (engine.waitFor action).left runSteps with calls }) :
    ChangesNothing runSteps action engine effect after := by
  rcases leaves with ⟨calls, rfl⟩
  refine ⟨silent, waits, ?_, rfl, ?_⟩
  · exact ⟨_, _, calls, _, rfl, fun _ _ => rfl, fun _ _ => id⟩
  · intro none
    rcases waits with ⟨replies, history, same⟩
    simp only [Wait.left, none, same]

theorem waitForHandler_waits (engine : Engine) (name : String) (params : Option Fields) :
    ∃ replies history,
      (engine.waitForHandler name params).engine = { engine with replies, history } := by
  rcases waitForHandler_engine engine name params with same | marked
  · exact ⟨_, _, same⟩
  · exact ⟨_, _, marked⟩

/-- An action of any kind that fails changes nothing. -/
theorem failed_changesNothing (runSteps : Runner) (action : Action) (engine : Engine)
    {fault : Fault} (fails : (perform runSteps action engine).1.outcome = .error fault) :
    ChangesNothing runSteps action engine (perform runSteps action engine).1
      (perform runSteps action engine).2 := by
  cases action with
  | navigate screen =>
      rcases navigate_cases engine screen with ⟨_, -, -, _, -, navigated⟩ | ⟨other, navigated⟩
      · rw [perform, navigated] at fails
        cases fails
      · rw [perform, navigated]
        exact .of_load rfl rfl
  | navigateToFlow flow screen data =>
      rcases navigateToFlow_cases engine flow screen data with
        ⟨_, -, -, _, -, navigated⟩ | ⟨other, navigated⟩
      · rw [perform, navigated] at fails
        cases fails
      · rw [perform, navigated]
        exact .of_load rfl rfl
  | setState updates => cases fails
  | goBack steps clearData => cases fails
  | apiCall method endpoint headers body =>
      rcases waitForReply_engine engine
        { method, endpoint, headers := headerTable (headers.getD []), body } with ⟨_, waits⟩
      exact .of_wait (sendRequest_messages runSteps engine _) ⟨_, _, waits⟩
        (sendRequest_leaves runSteps engine _)
  | custom handler params =>
      exact .of_wait rfl (waitForHandler_waits engine handler params)
        (callHandler_leaves runSteps engine handler params)
  | executeCallback name params =>
      exact .of_wait rfl (waitForHandler_waits engine name params)
        (callHandler_leaves runSteps engine name params)

/-- A request fails, and meanwhile the user saved the context and went to another flow. -/
theorem failed_changesNothing_of_nested :
    ∃ engine, (start sampleLibrary ["shop"] "home").1 = .ok engine ∧
      let hosted := { engine with registry := [], replies := sampleReplies }
      let request : Action := .apiCall .post "/save" none none
      (perform (runToDepth 2) request hosted).1.outcome = .error (.network "offline") ∧
        ChangesNothing (runToDepth 2) request hosted (perform (runToDepth 2) request hosted).1
          (perform (runToDepth 2) request hosted).2 := by
  rcases sampleLibrary_starts with ⟨engine, started⟩
  exact ⟨engine, started, rfl, failed_changesNothing _ _ _ rfl⟩

end Engine

end Storyboard
