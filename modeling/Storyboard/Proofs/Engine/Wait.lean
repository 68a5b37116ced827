import Storyboard.Engine.Run
/-!
# Waiting for a collaborator

Requests and calls of handlers do nothing to the engine themselves. They announce themselves,
the collaborator may take steps, and what came of it is noted.
-/

namespace Storyboard

namespace Engine

/-- An engine that waits for a collaborator, and the steps that the collaborator takes on it,
if it takes any. -/
structure Wait where
  engine : Engine
  during : Option (List Step) := none

def waitForReply (engine : Engine) (request : Http.Request) : Wait :=
  let (reply, engine) := (engine.mark (.requesting request)).takeReply request.endpoint
  ⟨engine, reply.during⟩

def waitForHandler (engine : Engine) (name : String) (params : Option Fields) : Wait :=
  match engine.registry.get? name with
  | none => ⟨engine, none⟩
  | some handler => ⟨engine.mark (.calling name params), handler.during⟩

/-- What an action waits for. Most actions wait for nobody. -/
def waitFor (engine : Engine) : Action → Wait
  | .apiCall method endpoint headers body =>
    engine.waitForReply { method, endpoint, headers := headerTable (headers.getD []), body }
  | .custom name params => engine.waitForHandler name params
  | .executeCallback name params => engine.waitForHandler name params
  | _ => ⟨engine, none⟩

/-- The engine as the collaborator's steps leave it. -/
def Wait.left (runSteps : Runner) (wait : Wait) : Engine :=
  match wait.during with
  | none => wait.engine
  | some steps => (runSteps steps wait.engine).2

/-- A request comes to the steps taken while it is pending. -/
theorem sendRequest_leaves (runSteps : Runner) (engine : Engine) (request : Http.Request) :
    ∃ calls, (engine.sendRequest runSteps request).2 =
      { (engine.waitForReply request).left runSteps with calls } := by
  unfold sendRequest waitForReply Wait.left
  rcases (engine.mark (.requesting request)).takeReply request.endpoint with ⟨reply, waiting⟩
  cases during : reply.during with
  | none =>
      simp only [during]
      exact ⟨_, rfl⟩
  | some steps =>
      simp only [during]
      exact ⟨_, rfl⟩

theorem sendRequest_messages (runSteps : Runner) (engine : Engine) (request : Http.Request) :
    (engine.sendRequest runSteps request).1.messages = [] := by
  unfold sendRequest
  rcases (engine.mark (.requesting request)).takeReply request.endpoint with ⟨reply, after⟩
  cases during : reply.during <;> simp only [during]

/-- Taking a reply off its list leaves a list of replies that were there before. -/
theorem takeReply_cases (engine : Engine) (endpoint : String) :
    (engine.takeReply endpoint).1 = { outcome := .error "connection refused" } ∧
        (engine.takeReply endpoint).2 = engine ∨
      ∃ replies, (endpoint, replies) ∈ engine.replies ∧
        (engine.takeReply endpoint).1 ∈ replies ∧
        ∃ rest, (∀ reply ∈ rest, reply ∈ replies) ∧
          ((engine.takeReply endpoint).2 = engine ∨
            (engine.takeReply endpoint).2 =
              { engine with replies := engine.replies.put endpoint rest }) := by
  unfold takeReply
  split
  · exact Or.inl ⟨rfl, rfl⟩
  · exact Or.inl ⟨rfl, rfl⟩
  · rename_i reply found
    exact Or.inr ⟨[reply], Table.mem_of_get? found, List.mem_singleton_self _, [], by simp,
      Or.inl rfl⟩
  · rename_i reply rest _ found
    exact Or.inr ⟨reply :: rest, Table.mem_of_get? found, List.mem_cons_self, rest,
      fun other member => List.mem_cons_of_mem _ member, Or.inr rfl⟩

theorem waitForReply_engine (engine : Engine) (request : Http.Request) :
    ∃ replies, (engine.waitForReply request).engine =
      { engine.mark (.requesting request) with replies } := by
  rcases takeReply_cases (engine.mark (.requesting request)) request.endpoint with
    ⟨-, same⟩ | ⟨_, -, -, _, -, same | changed⟩
  · exact ⟨_, same⟩
  · exact ⟨_, same⟩
  · exact ⟨_, changed⟩

theorem callHandler_leaves (runSteps : Runner) (engine : Engine) (name : String)
    (params : Option Fields) :
    ∃ calls, (engine.callHandler runSteps name params).2 =
      { (engine.waitForHandler name params).left runSteps with calls } := by
  unfold callHandler waitForHandler Wait.left
  cases engine.registry.get? name with
  | none => exact ⟨engine.calls, rfl⟩
  | some handler =>
      cases during : handler.during with
      | none =>
          simp only [Callback.Handler.invoke, during]
          exact ⟨_, rfl⟩
      | some steps =>
          simp only [Callback.Handler.invoke, during]
          exact ⟨_, rfl⟩

theorem waitForHandler_engine (engine : Engine) (name : String) (params : Option Fields) :
    (engine.waitForHandler name params).engine = engine ∨
      (engine.waitForHandler name params).engine = engine.mark (.calling name params) := by
  unfold waitForHandler
  cases engine.registry.get? name with
  | none => exact Or.inl rfl
  | some handler => exact Or.inr rfl

end Engine

end Storyboard
