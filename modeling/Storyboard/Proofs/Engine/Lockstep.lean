import Storyboard.Proofs.Engine.History
/-!
# Engines in lockstep

Two engines that differ at most in whether somebody listens, one of them without a receiver from
a point of the history on. Whatever is done to both of them comes to the same: the results are
equal, and so are the engines that are left, down to their histories. Only what was observed
meanwhile may differ, in that messages are missing from the point on.

The collaborators' own steps are taken by two runners, of which this is assumed.

Main result: `Lockstep.take`.
-/

namespace Storyboard

namespace Engine

def Happening.isAnswer : Happening → Bool
  | .answered .. => true
  | _ => false

/-- The number of moments before each answer of a history, the earliest answer first. -/
def answerTimes : List Moment → List Nat
  | [] => []
  | moment :: earlier =>
    answerTimes earlier ++ if moment.happening.isAnswer then [earlier.length] else []

mutual

/-- The same calls, observed without a receiver from a point on. The steps taken in them were
answered at the times given. -/
inductive SameCalls (point : Nat) : List Nat → List (Call Entry) → List (Call Entry) → Prop where
  | nil : SameCalls point [] [] []
  | handler {times later : List Nat} {calls others : List (Call Entry)}
      {during otherDuring : Option (List Entry)} (name : String) (params : Option Fields)
      (moment : Snapshot) (earlier : SameCalls point times calls others)
      (waited : SameWait point later during otherDuring) :
      SameCalls point (times ++ later) (calls ++ [.handler name params moment during])
        (others ++ [.handler name params moment otherDuring])
  | request {times later : List Nat} {calls others : List (Call Entry)}
      {during otherDuring : Option (List Entry)} (request : Http.Request) (moment : Snapshot)
      (earlier : SameCalls point times calls others)
      (waited : SameWait point later during otherDuring) :
      SameCalls point (times ++ later) (calls ++ [.request request moment during])
        (others ++ [.request request moment otherDuring])

/-- The same steps of a collaborator, if it took any. -/
inductive SameWait (point : Nat) :
    List Nat → Option (List Entry) → Option (List Entry) → Prop where
  | none : SameWait point [] none none
  | some {times : List Nat} {entries others : List Entry}
      (same : SameEntries point times entries others) :
      SameWait point times (some entries) (some others)

/-- The same steps, answered at the times given. What was observed of a step is the same but
for the messages, which are missing if it was answered at the point or later. -/
inductive SameEntries (point : Nat) : List Nat → List Entry → List Entry → Prop where
  | nil : SameEntries point [] [] []
  | cons {inside later : List Nat} {calls others : List (Call Entry)}
      {entries otherEntries : List Entry} (answer : Option Answer)
      (messages : Option (List Message)) (reads : List String) (after : Snapshot) (time : Nat)
      (called : SameCalls point inside calls others)
      (goesOn : SameEntries point later entries otherEntries) :
      SameEntries point (inside ++ time :: later)
        (.mk answer messages reads calls after :: entries)
        (.mk answer (if time < point then messages else none) reads others after ::
          otherEntries)

end

/-- The engine with another listener, and with other observations of the calls made. -/
def observedAs (engine : Engine) (listening : Bool) (calls : List (Call Entry)) : Engine :=
  { engine with listening, calls }

section ObservedAs

variable (engine : Engine) (listening : Bool) (calls : List (Call Entry))

@[simp]
theorem observedAs_context : (engine.observedAs listening calls).context = engine.context := rfl

@[simp]
theorem observedAs_replies : (engine.observedAs listening calls).replies = engine.replies := rfl

@[simp]
theorem observedAs_history : (engine.observedAs listening calls).history = engine.history := rfl

@[simp]
theorem observedAs_listening : (engine.observedAs listening calls).listening = listening := rfl

@[simp]
theorem observedAs_calls : (engine.observedAs listening calls).calls = calls := rfl

@[simp]
theorem observedAs_library : (engine.observedAs listening calls).library = engine.library := rfl

@[simp]
theorem observedAs_unobserved :
    (engine.observedAs listening calls).unobserved = engine.unobserved := rfl

@[simp]
theorem observedAs_snapshot :
    (engine.observedAs listening calls).snapshot = engine.snapshot := rfl

end ObservedAs

/-- The same engine but for the listener and the calls observed. The receiver of the other one
may be gone from a point on. -/
structure Alike (point : Nat) (engine other : Engine) : Prop where
  same : ∃ listening calls, other = engine.observedAs listening calls
  listens : other.listening = engine.listening ∨
    other.listening = false ∧ point ≤ engine.history.length

/-- Alike, with the same calls observed since a moment at which there were none. -/
structure Lockstep (point : Nat) (before : List Nat) (engine other : Engine) : Prop
    extends Alike point engine other where
  called : ∃ times, answerTimes engine.history = before ++ times ∧
    SameCalls point times engine.calls other.calls

/-- The same result, with engines that are in lockstep. -/
structure Agree {α : Type} (point : Nat) (before : List Nat) (result other : α × Engine) :
    Prop where
  value : other.1 = result.1
  lockstep : Lockstep point before result.2 other.2

/-- Steps taken on two engines that are alike: the same is observed, and the engines are alike
again. -/
structure Unheard (point : Nat) (engine other : Engine)
    (result otherResult : List Entry × Engine) : Prop where
  alike : Alike point result.2 otherResult.2
  calls : result.2.calls = engine.calls
  otherCalls : otherResult.2.calls = other.calls
  entries : ∃ times, answerTimes result.2.history = answerTimes engine.history ++ times ∧
    SameEntries point times result.1 otherResult.1

/-- Whatever steps two runners take, nobody can tell them apart. -/
def Unnoticed (point : Nat) (runSteps otherSteps : Runner) : Prop :=
  ∀ {engine other : Engine}, Alike point engine other → ∀ steps,
    Unheard point engine other (runSteps steps engine) (otherSteps steps other)

/-- No step was answered. -/
def Quiet (engine next : Engine) : Prop :=
  ∃ news, next.history = news ++ engine.history ∧
    ∀ moment ∈ news, moment.happening.isAnswer = false

variable {point : Nat} {before : List Nat} {engine other next otherNext : Engine}
  {runSteps otherSteps : Runner} {α : Type}

theorem Quiet.of_eq (same : next.history = engine.history) : Quiet engine next :=
  ⟨[], same, List.forall_mem_nil _⟩

theorem Quiet.of_cons {happening : Happening} {seen : Snapshot}
    (plain : happening.isAnswer = false)
    (same : next.history = ⟨happening, seen⟩ :: engine.history) : Quiet engine next :=
  ⟨[⟨happening, seen⟩], same, List.forall_mem_singleton.2 plain⟩

theorem Quiet.answerTimes (quiet : Quiet engine next) :
    answerTimes next.history = answerTimes engine.history := by
  rcases quiet with ⟨news, same, plain⟩
  rw [same]
  clear same
  induction news with
  | nil => rfl
  | cons moment rest ih =>
      rw [List.forall_mem_cons] at plain
      simp [Engine.answerTimes, plain.1, ih plain.2]

theorem Quiet.length_le (quiet : Quiet engine next) :
    engine.history.length ≤ next.history.length := by
  rcases quiet with ⟨news, same, -⟩
  simp [same]

/-! ### What reads neither the listener nor the calls -/

theorem Alike.reads {f : Engine → α} (alike : Alike point engine other)
    (deaf : ∀ listening calls, f (engine.observedAs listening calls) = f engine) :
    f other = f engine := by
  rcases alike.same with ⟨listening, calls, rfl⟩
  exact deaf listening calls

/-- An operation that neither reads nor writes the listener and the calls keeps engines in
lockstep. -/
theorem Lockstep.move {f : Engine → Engine} (lockstep : Lockstep point before engine other)
    (deaf : ∀ listening calls,
      f (engine.observedAs listening calls) = (f engine).observedAs listening calls)
    (quiet : Quiet engine (f engine)) : Lockstep point before (f engine) (f other) := by
  have own : f engine = (f engine).observedAs engine.listening engine.calls :=
    deaf engine.listening engine.calls
  have listening : (f engine).listening = engine.listening := by
    rw [own]
    rfl
  have calls : (f engine).calls = engine.calls := by
    rw [own]
    rfl
  rcases lockstep with ⟨⟨⟨_, _, rfl⟩, listens⟩, times, answered, same⟩
  rw [deaf]
  refine ⟨⟨⟨_, _, rfl⟩, ?_⟩, times, ?_, ?_⟩
  · rw [listening]
    exact listens.imp_right fun gone => ⟨gone.1, Nat.le_trans gone.2 quiet.length_le⟩
  · rw [quiet.answerTimes, answered]
  · rw [calls]
    exact same

theorem Lockstep.agree {f : Engine → α × Engine} (lockstep : Lockstep point before engine other)
    (deaf : ∀ listening calls, f (engine.observedAs listening calls) =
      ((f engine).1, (f engine).2.observedAs listening calls))
    (quiet : Quiet engine (f engine).2) : Agree point before (f engine) (f other) := by
  have moved := lockstep.move (f := fun engine => (f engine).2)
    (fun listening calls => congrArg Prod.snd (deaf listening calls)) quiet
  refine ⟨?_, moved⟩
  rcases lockstep.same with ⟨_, _, rfl⟩
  rw [deaf]

namespace Lockstep

theorem enter (lockstep : Lockstep point before engine other) (phase : Phase) :
    Lockstep point before (engine.enter phase) (other.enter phase) :=
  lockstep.move (f := fun engine => engine.enter phase) (fun _ _ => rfl) (.of_eq rfl)

theorem mark (lockstep : Lockstep point before engine other) (happening : Happening)
    (plain : happening.isAnswer = false) :
    Lockstep point before (engine.mark happening) (other.mark happening) :=
  lockstep.move (f := fun engine => engine.mark happening) (fun _ _ => rfl) (.of_cons plain rfl)

theorem sendAll (lockstep : Lockstep point before engine other) (messages : List Message) :
    Lockstep point before (engine.sendAll messages) (other.sendAll messages) := by
  apply lockstep.move (f := fun engine => engine.sendAll messages)
  · intro listening calls
    rw [sendAll_eq, sendAll_eq]
    rfl
  · apply Quiet.of_eq
    simp only [sendAll_eq]

theorem load_quiet (engine : Engine) (flow : String) : Quiet engine (engine.load flow).2 :=
  .of_cons rfl rfl

theorem load_observedAs {listening : Bool} {calls : List (Call Entry)} {flow : String}
    {result : Except Fault Flow} (loads : engine.load flow = (result, next)) :
    (engine.observedAs listening calls).load flow = (result, next.observedAs listening calls) := by
  cases loads
  rfl

theorem navigate (lockstep : Lockstep point before engine other) (screen : String) :
    Agree point before (engine.navigate screen) (other.navigate screen) := by
  apply lockstep.agree (f := fun engine => engine.navigate screen)
  · intro listening calls
    rcases loaded : engine.load engine.context.current.flow with ⟨result, next⟩
    simp only [Engine.navigate, observedAs_context, load_observedAs loaded, loaded]
    cases result with
    | error fault => rfl
    | ok flow =>
        cases has : flow.hasScreen screen <;> simp only [has] <;> rfl
  · rcases navigate_cases engine screen with ⟨_, -, -, _, rfl, navigated⟩ | ⟨_, navigated⟩
    · rw [navigated]
      exact load_quiet engine _
    · rw [navigated]
      exact load_quiet engine _

theorem navigateToFlow (lockstep : Lockstep point before engine other) (flow screen : String)
    (data : Option Fields) :
    Agree point before (engine.navigateToFlow flow screen data)
      (other.navigateToFlow flow screen data) := by
  apply lockstep.agree (f := fun engine => engine.navigateToFlow flow screen data)
  · intro listening calls
    rcases loaded : engine.load flow with ⟨result, next⟩
    simp only [Engine.navigateToFlow, load_observedAs loaded, loaded]
    cases result with
    | error fault => rfl
    | ok found =>
        cases has : found.hasScreen screen <;> simp only [has] <;> rfl
  · rcases navigateToFlow_cases engine flow screen data with
      ⟨_, -, -, _, rfl, navigated⟩ | ⟨_, navigated⟩
    · rw [navigated]
      exact load_quiet engine flow
    · rw [navigated]
      exact load_quiet engine flow

theorem currentScreen (lockstep : Lockstep point before engine other) (fields : Fields) :
    Agree point before (engine.currentScreen fields) (other.currentScreen fields) := by
  apply lockstep.agree (f := fun engine => engine.currentScreen fields)
  · intro listening calls
    apply Prod.ext
    · rw [currentScreen_fst, currentScreen_fst]
      rfl
    · rw [currentScreen_snd, currentScreen_snd]
      rfl
  · rw [currentScreen_snd]
    exact load_quiet engine _

theorem takeReply (lockstep : Lockstep point before engine other) (endpoint : String) :
    Agree point before (engine.takeReply endpoint) (other.takeReply endpoint) := by
  apply lockstep.agree (f := fun engine => engine.takeReply endpoint)
  · intro listening calls
    simp only [Engine.takeReply, observedAs_replies]
    rcases engine.replies.get? endpoint with _ | _ | ⟨reply, _ | _⟩ <;> rfl
  · apply Quiet.of_eq
    unfold Engine.takeReply
    split <;> rfl

theorem dropValue (lockstep : Lockstep point before engine other) (key : String) :
    Agree point before (engine.dropValue key) (other.dropValue key) := by
  apply lockstep.agree (f := fun engine => engine.dropValue key)
  · intro listening calls
    simp only [Engine.dropValue, observedAs_context]
    rcases engine.context.session.remove key with ⟨_ | _, session⟩ <;> rfl
  · apply Quiet.of_eq
    unfold Engine.dropValue
    split <;> rfl

end Lockstep

/-! ### Collaborators -/

/-- A call is noted once the engines are alike again after the wait. -/
theorem Lockstep.note {later : List Nat} {call otherCall : Call Entry}
    (lockstep : Lockstep point before engine other) (alike : Alike point next otherNext)
    (calls : next.calls = engine.calls) (otherCalls : otherNext.calls = other.calls)
    (answered : answerTimes next.history = answerTimes engine.history ++ later)
    (notes : ∀ {times calls others}, SameCalls point times calls others →
      SameCalls point (times ++ later) (calls ++ [call]) (others ++ [otherCall])) :
    Lockstep point before (next.note call) (otherNext.note otherCall) := by
  rcases alike with ⟨⟨listening, observed, rfl⟩, listens⟩
  rcases lockstep.called with ⟨times, answeredBefore, called⟩
  refine ⟨⟨⟨listening, observed ++ [otherCall], rfl⟩, listens⟩, times ++ later, ?_, ?_⟩
  · change answerTimes next.history = _
    rw [answered, answeredBefore, List.append_assoc]
  · rw [← calls, ← otherCalls] at called
    exact notes called

section Collaborators

variable (unnoticed : Unnoticed point runSteps otherSteps)
include unnoticed

theorem Lockstep.sendRequest (lockstep : Lockstep point before engine other)
    (request : Http.Request) :
    Agree point before (engine.sendRequest runSteps request)
      (other.sendRequest otherSteps request) := by
  have moment := lockstep.reads (f := snapshot) fun _ _ => rfl
  have marked := lockstep.mark (.requesting request) rfl
  rcases marked.takeReply request.endpoint with ⟨value, waiting⟩
  rcases replied : (engine.mark (.requesting request)).takeReply request.endpoint with
    ⟨reply, next⟩
  rcases otherReplied : (other.mark (.requesting request)).takeReply request.endpoint with
    ⟨otherReply, otherNext⟩
  rw [replied, otherReplied] at value waiting
  cases value
  cases during : reply.during with
  | none =>
      simp only [Engine.sendRequest, replied, otherReplied, during, moment]
      refine ⟨rfl, waiting.note waiting.toAlike rfl rfl (List.append_nil _).symm ?_⟩
      exact fun earlier => .request request _ earlier .none
  | some steps =>
      simp only [Engine.sendRequest, replied, otherReplied, during, moment]
      rcases unnoticed waiting.toAlike steps with ⟨alike, calls, otherCalls, later, answered, same⟩
      refine ⟨rfl, waiting.note alike calls otherCalls answered ?_⟩
      exact fun earlier => .request request _ earlier (.some same)

theorem Lockstep.callHandler (lockstep : Lockstep point before engine other) (name : String)
    (params : Option Fields) :
    Agree point before (engine.callHandler runSteps name params)
      (other.callHandler otherSteps name params) := by
  have moment := lockstep.reads (f := snapshot) fun _ _ => rfl
  have registry := lockstep.reads (f := Engine.registry) fun _ _ => rfl
  cases found : engine.registry.get? name with
  | none =>
      simp only [Engine.callHandler, registry, found]
      exact ⟨rfl, lockstep⟩
  | some handler =>
      have waiting := lockstep.mark (.calling name params) rfl
      cases during : handler.during with
      | none =>
          simp only [Engine.callHandler, registry, found, Callback.Handler.invoke, during, moment]
          refine ⟨rfl, waiting.note waiting.toAlike rfl rfl (List.append_nil _).symm ?_⟩
          exact fun earlier => .handler name params _ earlier .none
      | some steps =>
          simp only [Engine.callHandler, registry, found, Callback.Handler.invoke, during, moment]
          rcases unnoticed waiting.toAlike steps with
            ⟨alike, calls, otherCalls, later, answered, same⟩
          refine ⟨rfl, waiting.note alike calls otherCalls answered ?_⟩
          exact fun earlier => .handler name params _ earlier (.some same)

theorem Lockstep.perform (lockstep : Lockstep point before engine other) (action : Action) :
    Agree point before (perform runSteps action engine) (perform otherSteps action other) := by
  cases action with
  | navigate screen => exact lockstep.navigate screen
  | navigateToFlow flow screen data => exact lockstep.navigateToFlow flow screen data
  | setState updates =>
      exact lockstep.agree (f := fun engine => engine.setState updates) (fun _ _ => rfl)
        (.of_eq rfl)
  | goBack steps clearData =>
      exact lockstep.agree (f := fun engine => engine.goBack steps clearData) (fun _ _ => rfl)
        (.of_eq rfl)
  | apiCall method endpoint headers body => exact lockstep.sendRequest unnoticed _
  | custom handler params =>
      rcases lockstep.callHandler unnoticed handler params with ⟨value, called⟩
      exact ⟨congrArg (fun outcome => ({ outcome } : Effect)) value, called⟩
  | executeCallback name params =>
      rcases lockstep.callHandler unnoticed name params with ⟨value, called⟩
      exact ⟨congrArg (fun outcome => ({ outcome } : Effect)) value, called⟩

theorem Lockstep.execute (lockstep : Lockstep point before engine other) (place : List Edge)
    (scope : Scope) (action : Action) (handled : Bool) :
    Agree point before (execute runSteps place scope action handled engine)
      (execute otherSteps place scope action handled other) := by
  have context := lockstep.reads (f := Engine.context) fun _ _ => rfl
  rw [execute_eq, execute_eq, context]
  generalize action.resolve (engine.context.scopes scope.fields scope.response scope.error) =
    resolved
  have ready := (lockstep.enter (.executing resolved.tag scope.depth)).mark
    (.executing resolved) rfl
  rcases ready.perform unnoticed resolved with ⟨value, performed⟩
  dsimp only
  rw [value]
  refine ⟨rfl, ?_⟩
  refine Lockstep.mark ?_ _ rfl
  apply Lockstep.sendAll
  apply Lockstep.enter
  exact performed.sendAll _

/-! ### Runs -/

theorem treeCases_agree :
    TreeCases
      (fun descriptor => ∀ place scope {before engine other}, Lockstep point before engine other →
        Agree point before (descriptor.run runSteps place scope engine)
          (descriptor.run otherSteps place scope other))
      (fun trigger => ∀ place scope {before engine other}, Lockstep point before engine other →
        Agree point before (trigger.run runSteps place scope engine)
          (trigger.run otherSteps place scope other))
      (fun descriptors => ∀ place scope index last {before engine other},
        Lockstep point before engine other →
          Agree point before
            (Descriptor.runList runSteps place scope index last descriptors engine)
            (Descriptor.runList otherSteps place scope index last descriptors other)) where
  descriptor descriptor runs place scope _ engine other lockstep := by
    have agree := lockstep.execute unnoticed place scope descriptor.action
      descriptor.onError.isSome
    rcases executes : execute runSteps place scope descriptor.action descriptor.onError.isSome
      engine with ⟨execution, executed⟩
    rcases otherExecutes : execute otherSteps place scope descriptor.action
      descriptor.onError.isSome other with ⟨otherExecution, otherExecuted⟩
    rw [executes, otherExecutes] at agree
    rcases agree with ⟨rfl, settled⟩
    cases goesOn : descriptor.next? (Edge.after otherExecution.outcome) with
    | none =>
        rw [Descriptor.run_of_next?_none executes goesOn,
          Descriptor.run_of_next?_none otherExecutes goesOn]
        exact ⟨rfl, settled⟩
    | some next =>
        rcases runs _ next goesOn (Edge.after otherExecution.outcome :: place)
          (scope.after otherExecution.outcome) settled with ⟨value, last⟩
        rw [Descriptor.run_of_next?_some executes goesOn rfl,
          Descriptor.run_of_next?_some otherExecutes goesOn rfl, value]
        exact ⟨rfl, last⟩
  single descriptor runs place scope _ _ _ lockstep := by
    rcases runs place scope lockstep with ⟨value, last⟩
    rw [Trigger.run_single, Trigger.run_single, value]
    exact ⟨rfl, last⟩
  chain descriptors runs place scope _ _ _ lockstep := by
    rcases runs place scope 0 none lockstep with ⟨value, last⟩
    rw [Trigger.run_chain, Trigger.run_chain, value]
    exact ⟨rfl, last⟩
  nil place scope index last _ _ _ lockstep := by
    rw [Descriptor.runList, Descriptor.runList]
    exact ⟨rfl, lockstep⟩
  cons descriptor rest runs goesOn place scope index last _ engine other lockstep := by
    rcases runs (.item index :: place) scope lockstep with ⟨value, next⟩
    cases returns :
      (descriptor.run runSteps (.item index :: place) scope engine).1.outcome with
    | ok output =>
        rcases goesOn place scope (index + 1) output next with ⟨following, after⟩
        rw [Descriptor.runList_of_ok returns, Descriptor.runList_of_ok (value ▸ returns)]
        dsimp only
        rw [following, value]
        exact ⟨rfl, after⟩
    | error fault =>
        rw [Descriptor.runList_of_error returns, Descriptor.runList_of_error (value ▸ returns)]
        exact ⟨value, next⟩

theorem Lockstep.run (lockstep : Lockstep point before engine other) (trigger : Trigger)
    (fields : Fields) :
    Agree point before (engine.run runSteps trigger fields)
      (other.run otherSteps trigger fields) := by
  rcases Trigger.induction (treeCases_agree unnoticed) trigger [] { fields } lockstep with
    ⟨value, ran⟩
  exact ⟨value, ran.enter .idle⟩

/-! ### Steps -/

theorem Lockstep.dispatch (lockstep : Lockstep point before engine other) (action : Json)
    (fields : Fields) :
    Agree point before (engine.dispatch runSteps action fields)
      (other.dispatch otherSteps action fields) := by
  unfold Engine.dispatch
  cases Trigger.ofJson action with
  | error fault => exact ⟨rfl, lockstep.sendAll [.diagnostic .error fault.message]⟩
  | ok trigger =>
      rcases lockstep.run unnoticed trigger fields with ⟨value, ran⟩
      exact ⟨congrArg Run.outcome value, ran⟩

theorem Lockstep.handle (lockstep : Lockstep point before engine other) (event : Event) :
    Agree point before (engine.handle runSteps event) (other.handle otherSteps event) := by
  cases event with
  | actionTriggered action fields =>
      rcases lockstep.dispatch unnoticed action fields with ⟨value, dispatched⟩
      exact ⟨congrArg (Except.map fun _ => ()) value, dispatched⟩
  | backPressed =>
      rcases lockstep.run unnoticed backAction [] with ⟨value, ran⟩
      exact ⟨congrArg (fun run => run.outcome.map fun _ => ()) value, ran⟩
  | flowStateChanged flow state =>
      exact ⟨rfl, lockstep.move (f := fun engine =>
        { engine with context := engine.context.setFlowState flow state }) (fun _ _ => rfl)
        (.of_eq rfl)⟩
  | logoutRequested =>
      exact ⟨rfl, lockstep.move (f := logout) (fun _ _ => rfl) (.of_eq rfl)⟩

theorem Lockstep.askRegistry (lockstep : Lockstep point before engine other)
    (request : Registry.Request Step) :
    Agree point before (engine.askRegistry runSteps request)
      (other.askRegistry otherSteps request) := by
  cases request with
  | execute name params =>
      rcases lockstep.callHandler unnoticed name params with ⟨value, called⟩
      exact ⟨congrArg Registry.Answer.outcome value, called⟩
  | _ =>
      exact lockstep.agree (f := fun engine => engine.askRegistry runSteps _) (fun _ _ => rfl)
        (.of_eq rfl)

/-- A step taken in lockstep is answered the same. -/
theorem Lockstep.take (lockstep : Lockstep point before engine other) (step : Step) :
    Agree point before (take runSteps step engine) (take otherSteps step other) := by
  cases step with
  | event value =>
      cases found : Event.ofJson? value with
      | none =>
          simp only [Engine.take, found]
          exact ⟨rfl, lockstep⟩
      | some event =>
          rcases lockstep.handle unnoticed event with ⟨handled, last⟩
          simp only [Engine.take, found]
          exact ⟨congrArg Answer.handled handled, last⟩
  | dispatch action fields =>
      rcases lockstep.dispatch unnoticed action fields with ⟨value, dispatched⟩
      exact ⟨congrArg Answer.outcome value, dispatched⟩
  | screen fields =>
      rcases lockstep.currentScreen fields with ⟨value, shown⟩
      exact ⟨congrArg Answer.screen value, shown⟩
  | drop key =>
      rcases lockstep.dropValue key with ⟨value, dropped⟩
      exact ⟨congrArg Answer.flag value, dropped⟩
  | restore name =>
      have backups := lockstep.reads (f := Engine.backups) fun _ _ => rfl
      cases found : engine.backups.get? name with
      | none =>
          simp only [Engine.take, backups, found]
          exact ⟨rfl, lockstep⟩
      | some backup =>
          simp only [Engine.take, backups, found]
          exact ⟨rfl, lockstep.move (f := fun engine => engine.restore backup)
            (fun _ _ => rfl) (.of_eq rfl)⟩
  | close =>
      -- Both receivers are gone now, whichever was gone before.
      rcases lockstep with ⟨⟨⟨listening, calls, rfl⟩, -⟩, called⟩
      exact ⟨rfl, ⟨⟨false, calls, rfl⟩, Or.inl rfl⟩, called⟩
  | registry request =>
      rcases lockstep.askRegistry unnoticed request with ⟨value, asked⟩
      exact ⟨congrArg Answer.registry value, asked⟩
  | _ =>
      exact lockstep.agree (f := fun engine => Engine.take runSteps _ engine) (fun _ _ => rfl)
        (.of_eq rfl)

end Collaborators

end Engine

end Storyboard
