import Storyboard.Proofs.Engine.Phase
import Storyboard.Proofs.Run.Diagnostics
/-!
# The phases of a run

A run during which no other run begins passes through two phases for each action: it is being
executed, at the depth of its continuations, and then it has succeeded or failed. Last of all
the engine is idle. So whenever a collaborator is called, the phase names the action that waits.

A collaborator may take other steps meanwhile. None of them touches the phase.

Main result: `run_phases`.
-/

namespace Storyboard

namespace Engine

/-! ### Phases of one action -/

/-- The number of continuations on a way. -/
def continuations : List Edge → Nat
  | [] => 0
  | .item _ :: place => continuations place
  | .onSuccess :: place | .onError :: place => continuations place + 1

namespace Execution

/-- The phase while the action is executed. -/
def phase (execution : Execution) : Phase :=
  .executing execution.action.tag execution.scope.depth

/-- The phases that an execution passes through. -/
def phases (execution : Execution) : List Phase :=
  [execution.phase, settled execution.action.tag execution.outcome]

/-- The moments of an execution, the latest first: from when the action is about to be executed
until it was, its phase shows. -/
def Shows (execution : Execution) (moments : List Moment) : Prop :=
  ∃ before between after,
    moments = ⟨.executed execution.action execution.outcome, after⟩ ::
      (between ++ [⟨.executing execution.action, before⟩]) ∧
    before.phase = execution.phase ∧
    (∀ moment ∈ between, moment.seen.phase = execution.phase) ∧
    after.phase = settled execution.action.tag execution.outcome

end Execution

/-- The call that an action makes when so much is seen. -/
inductive MakesCall (seen : Snapshot) : Action → Call Entry → Prop where
  | custom (name : String) (params : Option Fields) (during : Option (List Entry)) :
      MakesCall seen (.custom name params) (.handler name params seen during)
  | executeCallback (name : String) (params : Option Fields) (during : Option (List Entry)) :
      MakesCall seen (.executeCallback name params) (.handler name params seen during)
  | apiCall (method : Http.Method) (endpoint : String) (headers : Option Fields)
      (body : Option Json) (during : Option (List Entry)) :
      MakesCall seen (.apiCall method endpoint headers body)
        (.request { method, endpoint, headers := headerTable (headers.getD []), body } seen during)

/-- Every call is the action's own, and its phase shows. -/
def Execution.Makes (execution : Execution) (calls : List (Call Entry)) : Prop :=
  ∀ call ∈ calls, ∃ seen, MakesCall seen execution.action call ∧ seen.phase = execution.phase

/-- No run begins at these moments. -/
def Alone (moments : List Moment) : Prop :=
  ∀ moment ∈ moments, moment.happening.beginsRun = false

/-- What is promised of the phases of a run, given the moments that it adds. -/
structure Phased (trigger : Trigger) (run : Run) (engine last : Engine) (news : List Moment) :
    Prop where
  phases : last.phases =
    .idle :: ((run.executed.flatMap Execution.phases).reverse ++ engine.phases)
  executed : ∀ execution ∈ run.executed, ∃ node ∈ trigger.nodes [], execution.Of node ∧
    execution.phase = .executing node.descriptor.action.tag (continuations node.place)
  moments : ∃ spans, news = spans.reverse.flatten ∧
    List.Forall₂ Execution.Shows run.executed spans
  calls : ∃ made, last.calls = engine.calls ++ made.flatten ∧
    List.Forall₂ Execution.Makes run.executed made

/-! ### Between two phases -/

/-- Moments are added, and if no run begins at one of them then the phase stays. -/
def Still (engine next : Engine) : Prop :=
  ∃ news, next.history = news ++ engine.history ∧
    (Alone news →
      next.phases = engine.phases ∧ ∀ moment ∈ news, moment.seen.phase = engine.phase)

variable {engine next last : Engine} {runSteps : Runner}

theorem alone_append {news earlier : List Moment} :
    Alone (news ++ earlier) ↔ Alone news ∧ Alone earlier :=
  List.forall_mem_append

theorem alone_cons {moment : Moment} {earlier : List Moment} :
    Alone (moment :: earlier) ↔ moment.happening.beginsRun = false ∧ Alone earlier :=
  List.forall_mem_cons

theorem phase_of_phases (phases : next.phases = engine.phases) : next.phase = engine.phase := by
  rw [Engine.phase, Engine.phase, phases]

namespace Still

theorem refl (engine : Engine) : Still engine engine :=
  ⟨[], rfl, fun _ => ⟨rfl, List.forall_mem_nil _⟩⟩

theorem trans (first : Still engine next) (second : Still next last) : Still engine last := by
  rcases first with ⟨earlier, history, stays⟩
  rcases second with ⟨later, grown, staysOn⟩
  refine ⟨later ++ earlier, by rw [grown, history, List.append_assoc], ?_⟩
  intro alone
  rcases alone_append.1 alone with ⟨laterAlone, earlierAlone⟩
  rcases stays earlierAlone with ⟨phases, shown⟩
  rcases staysOn laterAlone with ⟨phases', shown'⟩
  refine ⟨phases'.trans phases, List.forall_mem_append.2 ⟨?_, shown⟩⟩
  rw [← phase_of_phases phases]
  exact shown'

theorem of_eq (still : Still engine next) (history : last.history = next.history)
    (phases : last.phases = next.phases) : Still engine last :=
  still.trans ⟨[], history, fun _ => ⟨phases, List.forall_mem_nil _⟩⟩

theorem mark (still : Still engine next) (happening : Happening) :
    Still engine (next.mark happening) :=
  still.trans ⟨[⟨happening, next.snapshot⟩], rfl,
    fun _ => ⟨rfl, List.forall_mem_singleton.2 rfl⟩⟩

end Still

/-- Collaborators leave the phase as it is unless they run something, and they keep the calls of
their caller apart. -/
structure Rests (runSteps : Runner) : Prop where
  still : ∀ steps engine, Still engine (runSteps steps engine).2
  calls : ∀ steps engine, (runSteps steps engine).2.calls = engine.calls

theorem Rests.lasting (rests : Rests runSteps) (engine : Engine) :
    Lasting runSteps (Still engine) where
  of_eq still := still.of_eq
  mark happening _ still := still.mark happening
  steps steps next still := still.trans (rests.still steps next)

/-! ### Calls -/

theorem sendRequest_calls (rests : Rests runSteps) (engine : Engine) (request : Http.Request) :
    ∃ during, (engine.sendRequest runSteps request).2.calls =
      engine.calls ++ [.request request engine.snapshot during] := by
  have taken : ((engine.mark (.requesting request)).takeReply request.endpoint).2.calls =
      engine.calls := by
    rcases waitForReply_engine engine request with ⟨replies, waits⟩
    have kept := congrArg Engine.calls waits
    exact kept
  unfold sendRequest
  rcases takes : (engine.mark (.requesting request)).takeReply request.endpoint with
    ⟨reply, waiting⟩
  rw [takes] at taken
  cases during : reply.during with
  | none =>
      simp only [during]
      exact ⟨none, congrArg (· ++ _) taken⟩
  | some steps =>
      simp only [during]
      exact ⟨_, congrArg (· ++ _) ((rests.calls steps waiting).trans taken)⟩

theorem callHandler_calls (rests : Rests runSteps) (engine : Engine) (name : String)
    (params : Option Fields) :
    (engine.callHandler runSteps name params).2.calls = engine.calls ∨
      ∃ during, (engine.callHandler runSteps name params).2.calls =
        engine.calls ++ [.handler name params engine.snapshot during] := by
  unfold callHandler
  cases engine.registry.get? name with
  | none => exact Or.inl rfl
  | some handler =>
      right
      cases during : handler.during with
      | none =>
          simp only [Callback.Handler.invoke, during]
          exact ⟨none, rfl⟩
      | some steps =>
          simp only [Callback.Handler.invoke, during]
          exact ⟨_, congrArg (· ++ _) (rests.calls steps (engine.mark (.calling name params)))⟩

/-- An action calls nobody, or it makes its own call. -/
theorem perform_calls (rests : Rests runSteps) (action : Action) (engine : Engine) :
    ∃ made, (perform runSteps action engine).2.calls = engine.calls ++ made ∧
      ∀ call ∈ made, MakesCall engine.snapshot action call := by
  cases action with
  | navigate screen =>
      refine ⟨[], ?_, nofun⟩
      rw [List.append_nil]
      rcases navigate_cases engine screen with ⟨_, -, -, _, rfl, navigated⟩ | ⟨fault, navigated⟩
      · rw [Engine.perform, navigated]
        rfl
      · rw [Engine.perform, navigated]
        rfl
  | navigateToFlow flow screen data =>
      refine ⟨[], ?_, nofun⟩
      rw [List.append_nil]
      rcases navigateToFlow_cases engine flow screen data with
        ⟨_, -, -, _, rfl, navigated⟩ | ⟨fault, navigated⟩
      · rw [Engine.perform, navigated]
        rfl
      · rw [Engine.perform, navigated]
        rfl
  | setState updates => exact ⟨[], (List.append_nil _).symm, nofun⟩
  | goBack steps clearData => exact ⟨[], (List.append_nil _).symm, nofun⟩
  | apiCall method endpoint headers body =>
      rcases sendRequest_calls rests engine _ with ⟨during, made⟩
      exact ⟨_, made, List.forall_mem_singleton.2 (.apiCall method endpoint headers body during)⟩
  | custom name params =>
      rcases callHandler_calls rests engine name params with same | ⟨during, made⟩
      · exact ⟨[], same.trans (List.append_nil _).symm, nofun⟩
      · exact ⟨_, made, List.forall_mem_singleton.2 (.custom name params during)⟩
  | executeCallback name params =>
      rcases callHandler_calls rests engine name params with same | ⟨during, made⟩
      · exact ⟨[], same.trans (List.append_nil _).symm, nofun⟩
      · exact ⟨_, made, List.forall_mem_singleton.2 (.executeCallback name params during)⟩

/-! ### Runs -/

/-- An engine that is about to execute an action. -/
def readyFor (engine : Engine) (execution : Execution) : Engine :=
  (engine.enter execution.phase).mark (.executing execution.action)

/-- What an execution adds to the records once its action was performed. -/
theorem execute_settles {place : List Edge} {scope : Scope} {action : Action} {handled : Bool}
    {execution : Execution}
    (executes : execute runSteps place scope action handled engine = (execution, next)) :
    let performed := (perform runSteps execution.action (engine.readyFor execution)).2
    next.history = ⟨.executed execution.action execution.outcome, next.snapshot⟩ ::
        performed.history ∧
      next.phases = settled execution.action.tag execution.outcome :: performed.phases ∧
      next.calls = performed.calls := by
  rw [execute_eq] at executes
  cases executes
  simp only [sendAll_eq]
  exact ⟨rfl, rfl, rfl⟩

/-- An action passes through two phases, and the calls that it makes fall into the first. -/
theorem execute_phased (rests : Rests runSteps) {place : List Edge} {scope : Scope}
    {action : Action} {handled : Bool} {execution : Execution}
    (executes : execute runSteps place scope action handled engine = (execution, next)) :
    ∃ span made, next.history = span ++ engine.history ∧ next.calls = engine.calls ++ made ∧
      execution.Makes made ∧
      (Alone span → next.phases = execution.phases.reverse ++ engine.phases ∧
        execution.Shows span) := by
  rcases execute_settles executes with ⟨history, phases, calls⟩
  rcases perform_calls rests execution.action (engine.readyFor execution) with ⟨made, called, own⟩
  rcases (rests.lasting _).perform (.refl (engine.readyFor execution)) execution.action with
    ⟨between, grown, stays⟩
  let before := (engine.enter execution.phase).snapshot
  refine ⟨⟨.executed execution.action execution.outcome, next.snapshot⟩ ::
    (between ++ [⟨.executing execution.action, before⟩]), made, ?_, calls.trans called, ?_, ?_⟩
  · rw [history, grown, List.cons_append, List.append_assoc]
    rfl
  · exact fun call among => ⟨(engine.readyFor execution).snapshot, own call among, rfl⟩
  · intro alone
    rcases stays (alone_append.1 (alone_cons.1 alone).2).1 with ⟨kept, shown⟩
    refine ⟨?_, ⟨before, between, next.snapshot, rfl, rfl, shown, ?_⟩⟩
    · rw [phases, kept]
      rfl
    · change next.phase = _
      rw [Engine.phase, phases]
      rfl

/-- The actions of a run, one after the other. -/
theorem Sequence.phased (rests : Rests runSteps) {nodes : List Node} {executed : List Execution}
    (sequence : Sequence runSteps nodes engine executed last) :
    ∃ spans made, last.history = spans.reverse.flatten ++ engine.history ∧
      last.calls = engine.calls ++ made.flatten ∧
      List.Forall₂ Execution.Makes executed made ∧
      (Alone spans.reverse.flatten →
        last.phases = (executed.flatMap Execution.phases).reverse ++ engine.phases ∧
        List.Forall₂ Execution.Shows executed spans) := by
  induction sequence with
  | nil engine => exact ⟨[], [], rfl, (List.append_nil _).symm, .nil, fun _ => ⟨rfl, .nil⟩⟩
  | @cons engine next last execution rest node scope among executes _ ih =>
      rcases execute_phased rests executes with ⟨span, calls, history, called, own, first⟩
      rcases ih with ⟨spans, made, grown, calledOn, owned, following⟩
      refine ⟨span :: spans, calls :: made, ?_, ?_, .cons own owned, ?_⟩
      · rw [grown, history]
        simp
      · rw [calledOn, called]
        simp
      · intro alone
        simp only [List.reverse_cons, List.flatten_append, List.flatten_singleton] at alone
        rcases alone_append.1 alone with ⟨later, earlier⟩
        rcases first earlier with ⟨phases, shows⟩
        rcases following later with ⟨phasesOn, showsOn⟩
        refine ⟨?_, .cons shows showsOn⟩
        rw [phasesOn, phases]
        simp

theorem run_grows (rests : Rests runSteps) (trigger : Trigger) (fields : Fields)
    (engine : Engine) :
    ∃ news, (engine.run runSteps trigger fields).2.history = news ++ engine.history := by
  rcases (trigger.run_sequence runSteps [] { fields } engine).phased rests with
    ⟨spans, made, history, -⟩
  exact ⟨spans.reverse.flatten, history⟩

/-! ### Steps -/

theorem takeObserved_history (runSteps : Runner) (step : Step) (engine : Engine) :
    ∃ asked : Engine, asked.history = ⟨.asked step, engine.snapshot⟩ :: engine.history ∧
      ∃ answered : Moment, (takeObserved runSteps step engine).2.history =
        answered :: (take runSteps step asked).2.history :=
  ⟨{ engine.mark (.asked step) with calls := [] }, rfl, _, rfl⟩

theorem takeObserved_still (rests : Rests runSteps) (step : Step) (engine : Engine) :
    Still engine (takeObserved runSteps step engine).2 := by
  cases runsOne : step.runs with
  | false => exact (rests.lasting engine).takeObserved (.refl engine) runsOne
  | true =>
      -- A run begins here, so there is nothing to show of the phase.
      rcases Option.isSome_iff_exists.1 runsOne with ⟨trigger, found⟩
      rcases takeObserved_history runSteps step engine with ⟨asked, begun, answered, history⟩
      rcases take_run found asked with ⟨fields, taken⟩
      rcases run_grows rests trigger fields asked with ⟨news, grown⟩
      rw [taken, grown, begun, List.append_cons, ← List.cons_append] at history
      refine ⟨_, history, ?_⟩
      intro alone
      have begins := (alone_append.1 (alone_cons.1 alone).2).2 _ List.mem_cons_self
      rw [Happening.beginsRun, runsOne] at begins
      cases begins

theorem runAll_rests (rests : Rests runSteps) : Rests (runAll runSteps) where
  still steps engine := by
    induction steps generalizing engine with
    | nil => exact .refl engine
    | cons step rest ih => exact (takeObserved_still rests step engine).trans (ih _)
  calls steps engine := by
    induction steps generalizing engine with
    | nil => rfl
    | cons step rest ih => exact ih _

theorem runToDepth_rests (depth : Nat) : Rests (runToDepth depth) := by
  induction depth with
  | zero => exact ⟨fun _ engine => .refl engine, fun _ _ => rfl⟩
  | succ depth ih => exact runAll_rests ih

/-! ### Depths -/

theorem continuations_after (outcome : Outcome) (place : List Edge) :
    continuations (Edge.after outcome :: place) = continuations place + 1 := by
  cases outcome <;> rfl

theorem depth_after (scope : Scope) (outcome : Outcome) :
    (scope.after outcome).depth = scope.depth + 1 := by
  cases outcome <;> rfl

/-- The depth grows by one with each continuation on the way, and with nothing else. -/
theorem runCases_depth (runSteps : Runner) :
    RunCases runSteps
      (fun _ place scope _ run _ => ∀ execution ∈ run.executed,
        execution.scope.depth + continuations place =
          scope.depth + continuations execution.place)
      (fun _ place scope _ run _ => ∀ execution ∈ run.executed,
        execution.scope.depth + continuations place =
          scope.depth + continuations execution.place)
      (fun _ place scope _ _ run _ => ∀ execution ∈ run.executed,
        execution.scope.depth + continuations place =
          scope.depth + continuations execution.place) where
  stops executes _ := by
    rcases execute_records executes with ⟨rfl, rfl, -, -⟩
    exact List.forall_mem_singleton.2 rfl
  continues executes _ runs := by
    rcases execute_records executes with ⟨rfl, rfl, -, -⟩
    refine List.forall_mem_cons.2 ⟨rfl, ?_⟩
    intro later among
    have below := runs later among
    rw [continuations_after, depth_after] at below
    omega
  single runs := runs
  chain runs := runs
  nil _ _ _ _ _ := List.forall_mem_nil _
  cons first _ goesOn := List.forall_mem_append.2 ⟨first, goesOn⟩
  fails first _ := first

/-- A run during which no other run begins passes through two phases for each action, in the
order of execution, and is idle in the end. -/
theorem run_phases (depth : Nat) (trigger : Trigger) (fields : Fields) (engine : Engine)
    {news : List Moment}
    (history : (engine.run (runToDepth depth) trigger fields).2.history =
      news ++ engine.history)
    (alone : Alone news) :
    Phased trigger (engine.run (runToDepth depth) trigger fields).1 engine
      (engine.run (runToDepth depth) trigger fields).2 news := by
  have sequence := trigger.run_sequence (runToDepth depth) [] { fields } engine
  rcases sequence.phased (runToDepth_rests depth) with
    ⟨spans, made, grown, calls, makes, shows⟩
  have same : spans.reverse.flatten = news := List.append_cancel_right (grown.symm.trans history)
  rw [same] at shows
  rcases shows alone with ⟨phases, spanned⟩
  refine ⟨congrArg (_ :: ·) phases, ?_, ⟨spans, same.symm, spanned⟩, ⟨made, calls, makes⟩⟩
  intro execution among
  rcases sequence.exists_node among with ⟨node, listed, ofNode⟩
  have depths := Trigger.run_induction (runCases_depth (runToDepth depth)) trigger [] { fields }
    engine execution among
  refine ⟨node, listed, ofNode, ?_⟩
  have deep : execution.scope.depth = continuations execution.place := by
    simpa only [continuations, Nat.add_zero, Nat.zero_add] using depths
  rw [Execution.phase, ofNode.tag, deep, ofNode.place]

/-- While the request is pending, the user saves the context and a value is written. -/
def sampleSaving : Table (List (Reply Step)) :=
  [("/save",
    [{ outcome := .error "offline"
       during := some [.backup "before", .set "draft" (.bool true)] }])]

/-- A request whose failure is handled by a list. -/
def sampleHandled : Trigger :=
  .single (.mk (.apiCall .post "/save" none none) none
    (some (.chain [.mk (.setState [("saved", .bool false)]) none none])))

/-- The steps taken while the request is pending run nothing. -/
theorem run_phases_of_saving :
    ∃ engine, (start sampleLibrary ["shop"] "home").1 = .ok engine ∧
      ∃ hosted news, hosted = { engine with replies := sampleSaving } ∧
        (Engine.run (runToDepth 1) sampleHandled [] hosted).2.history = news ++ hosted.history ∧
        Alone news ∧
        Phased sampleHandled (Engine.run (runToDepth 1) sampleHandled [] hosted).1 hosted
          (Engine.run (runToDepth 1) sampleHandled [] hosted).2 news := by
  have alone : ((start sampleLibrary ["shop"] "home").1.toOption.map fun engine =>
      (Engine.run (runToDepth 1) sampleHandled []
        { engine with replies := sampleSaving }).2.history.all fun moment =>
          !moment.happening.beginsRun) = some true := by
    decide +kernel
  cases started : (start sampleLibrary ["shop"] "home").1 with
  | error fault =>
      rw [started] at alone
      cases alone
  | ok engine =>
      rw [started] at alone
      have begins := List.all_eq_true.1 (Option.some.inj alone)
      rcases run_grows (runToDepth_rests 1) sampleHandled []
        { engine with replies := sampleSaving } with ⟨news, history⟩
      have newsAlone : Alone news := by
        intro moment among
        rw [history] at begins
        simpa using begins moment (List.mem_append_left _ among)
      exact ⟨engine, rfl, _, news, rfl, history, newsAlone,
        run_phases 1 sampleHandled [] _ history newsAlone⟩

end Engine

end Storyboard
