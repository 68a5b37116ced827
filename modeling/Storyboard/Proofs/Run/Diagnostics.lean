import Storyboard.Proofs.Engine.Failure
import Storyboard.Proofs.Run.Abort
/-!
# Diagnostics of a run

A run reports each mistake in a flow once, handled or not, and any other fault once unless it is
handled. So there is at most one warning, and a run that fails reports its fault last.

While an action waits, the steps of its collaborator may run other triggers and send messages
of their own. What the run itself sends for an action comes after all of them.

Main result: `run_accounts`.
-/

namespace Storyboard

namespace Engine

/-- The diagnostics among messages. -/
def reports (messages : List Message) : List (Level × String) :=
  messages.filterMap fun message =>
    match message with
    | .diagnostic level text => some (level, text)
    | _ => none

def Node.report (node : Node) (fault : Fault) : String :=
  node.descriptor.action.tag ++ ": " ++ fault.message

/-- The report on a fault is an error if it is a mistake, and a warning otherwise. -/
def Node.diagnostic (node : Node) (fault : Fault) : Message :=
  .diagnostic (if fault.isMistake then .error else .warning) (node.report fault)

/-- The diagnostics among the messages that a run itself sends for a descriptor's action. -/
structure Node.Accounts (node : Node) (outcome : Outcome) (own : List Message) : Prop where
  succeeded : ∀ output, outcome = .ok output → reports own = []
  mistake : ∀ fault, outcome = .error fault → fault.isMistake = true →
    reports own = [(.error, node.report fault)]
  unhandled : ∀ fault, outcome = .error fault → fault.isMistake = false →
    node.descriptor.onError = none → reports own = [(.warning, node.report fault)]
  handled : ∀ fault, outcome = .error fault → fault.isMistake = false →
    node.descriptor.onError.isSome = true → reports own = []

/-- The wait of an action that was announced. -/
def waitOf (engine : Engine) (execution : Execution) : Wait :=
  ((engine.enter (.executing execution.action.tag execution.scope.depth)).mark
    (.executing execution.action)).waitFor execution.action

/-- Descriptors among the nodes are executed, each on the engine that the one before left, and
listed with what the run itself sends for them. Until the collaborator takes its steps nothing
is sent, and then nothing but these messages. -/
inductive Speech (runSteps : Runner) (nodes : List Node) :
    Engine → List (Execution × List Message) → Engine → Prop where
  | nil (engine : Engine) : Speech runSteps nodes engine [] engine
  | cons {engine next last : Engine} {execution : Execution} {own : List Message}
      {rest : List (Execution × List Message)} (node : Node) (scope : Scope)
      (among : node ∈ nodes)
      (executes : execute runSteps node.place scope node.descriptor.action
        node.descriptor.onError.isSome engine = (execution, next))
      (waits : (engine.waitOf execution).engine.sent = engine.sent)
      (sends : next.sent = own.reverse ++ ((engine.waitOf execution).left runSteps).sent)
      (goesOn : Speech runSteps nodes next rest last) :
      Speech runSteps nodes engine ((execution, own) :: rest) last

/-- What is promised of a run, its executed actions listed with what it sends for them. -/
structure Accounts (runSteps : Runner) (trigger : Trigger) (engine last : Engine) (run : Run)
    (spoken : List (Execution × List Message)) : Prop where
  executed : spoken.map Prod.fst = run.executed
  speech : ∃ ended, Speech runSteps (trigger.nodes []) engine spoken ended ∧
    last = ended.enter .idle
  accounts : ∀ entry ∈ spoken, ∀ node ∈ trigger.nodes [], node.place = entry.1.place →
    node.Accounts entry.1.outcome entry.2
  once : (reports (spoken.flatMap Prod.snd)).countP (fun report => report.1 = .warning) ≤ 1
  /-- The fault of a run is that of an action, and the report on it ends the run. -/
  ends : ∀ fault, run.outcome = .error fault → ∃ node ∈ trigger.nodes [],
    (∃ failing ∈ run.executed, failing.place = node.place ∧ failing.outcome = .error fault) ∧
      (spoken.flatMap Prod.snd).getLast? = some (node.diagnostic fault) ∧
      last.sent.head? = some (node.diagnostic fault)

/-! ### Messages of one action -/

@[simp]
theorem reports_nil : reports [] = [] := rfl

@[simp]
theorem reports_append (messages others : List Message) :
    reports (messages ++ others) = reports messages ++ reports others :=
  List.filterMap_append

@[simp]
theorem reports_diagnostic (level : Level) (text : String) :
    reports [.diagnostic level text] = [(level, text)] := rfl

theorem resolve_tag (action : Action) (scopes : Scopes) :
    (action.resolve scopes).tag = action.tag := by
  cases action <;> rfl

theorem reports_updateNotice (keys : List String) : reports (updateNotice keys) = [] := by
  cases keys <;> rfl

variable {runSteps : Runner}

/-- An action tells the renderer what it did and reports nothing, and while it is performed only
its collaborator sends messages. -/
theorem perform_speaks (runSteps : Runner) (action : Action) (engine : Engine) :
    reports (perform runSteps action engine).1.messages = [] ∧
      (perform runSteps action engine).2.sent =
        ((engine.waitFor action).left runSteps).sent := by
  cases action with
  | navigate screen =>
      rcases navigate_cases engine screen with ⟨_, -, -, _, rfl, navigated⟩ | ⟨fault, navigated⟩
      · rw [perform, navigated]
        exact ⟨rfl, rfl⟩
      · rw [perform, navigated]
        exact ⟨rfl, rfl⟩
  | navigateToFlow flow screen data =>
      rcases navigateToFlow_cases engine flow screen data with
        ⟨_, -, -, _, rfl, navigated⟩ | ⟨fault, navigated⟩
      · rw [perform, navigated, reports_append, reports_updateNotice]
        exact ⟨rfl, rfl⟩
      · rw [perform, navigated]
        exact ⟨rfl, rfl⟩
  | setState updates => exact ⟨rfl, rfl⟩
  | goBack steps clearData =>
      refine ⟨?_, rfl⟩
      simp only [perform, goBack, reports_append]
      split <;> split <;> rfl
  | apiCall method endpoint headers body =>
      rcases sendRequest_leaves runSteps engine
        { method, endpoint, headers := headerTable (headers.getD []), body } with ⟨calls, leaves⟩
      rw [perform, sendRequest_messages, leaves]
      exact ⟨rfl, rfl⟩
  | custom handler params =>
      rcases callHandler_leaves runSteps engine handler params with ⟨calls, leaves⟩
      rw [perform, leaves]
      exact ⟨rfl, rfl⟩
  | executeCallback name params =>
      rcases callHandler_leaves runSteps engine name params with ⟨calls, leaves⟩
      rw [perform, leaves]
      exact ⟨rfl, rfl⟩

theorem waitFor_sent (engine : Engine) (action : Action) :
    (engine.waitFor action).engine.sent = engine.sent := by
  cases action with
  | apiCall method endpoint headers body =>
      rcases waitForReply_engine engine
        { method, endpoint, headers := headerTable (headers.getD []), body } with ⟨_, waits⟩
      rw [waitFor, waits]
      rfl
  | custom handler params =>
      rcases waitForHandler_waits engine handler params with ⟨_, _, waits⟩
      rw [waitFor, waits]
  | executeCallback name params =>
      rcases waitForHandler_waits engine name params with ⟨_, _, waits⟩
      rw [waitFor, waits]
  | _ => rfl

/-- What a run sends for an action: what the action says, and then what is to be reported. -/
def Execution.told (execution : Execution) : List Message :=
  execution.messages ++
    diagnostics execution.action.tag execution.handled execution.outcome

/-- What an execution records of its messages. -/
structure Execution.Plain (execution : Execution) : Prop where
  quiet : reports execution.messages = []
  silent : ∀ fault, execution.outcome = .error fault → execution.messages = []

theorem execute_told {place : List Edge} {scope : Scope} {action : Action} {handled : Bool}
    {engine next : Engine} {execution : Execution}
    (executes : execute runSteps place scope action handled engine = (execution, next)) :
    execution.Plain ∧ (engine.waitOf execution).engine.sent = engine.sent ∧
      next.sent = execution.told.reverse ++ ((engine.waitOf execution).left runSteps).sent := by
  rw [execute_eq] at executes
  cases executes
  refine ⟨⟨(perform_speaks runSteps _ _).1, ?_⟩, waitFor_sent _ _, ?_⟩
  · intro fault failed
    exact (failed_changesNothing runSteps _ _ failed).silent
  · rw [waitOf, ← (perform_speaks runSteps _ _).2]
    simp only [sendAll_eq, Execution.told, List.reverse_append, List.append_assoc]
    rfl

/-- Every executed action has its own part in what a run sends. -/
theorem Sequence.speech {nodes : List Node} {engine last : Engine} {executed : List Execution}
    (sequence : Sequence runSteps nodes engine executed last) :
    (∀ execution ∈ executed, execution.Plain) ∧
      Speech runSteps nodes engine
        (executed.map fun execution => (execution, execution.told)) last := by
  induction sequence with
  | nil engine => exact ⟨List.forall_mem_nil _, .nil engine⟩
  | cons node scope among executes _ ih =>
      rcases ih with ⟨plain, speech⟩
      rcases execute_told executes with ⟨first, waits, sends⟩
      refine ⟨?_, .cons node scope among executes waits sends speech⟩
      exact List.forall_mem_cons.2 ⟨first, plain⟩

section Told

variable {execution : Execution} {node : Node} {fault : Fault}

/-- The tag of an action stays when its payload is resolved. -/
theorem Execution.Of.tag (ofNode : execution.Of node) :
    execution.action.tag = node.descriptor.action.tag := by
  rcases ofNode.action with ⟨scopes, resolved⟩
  rw [resolved, resolve_tag]

theorem Execution.Plain.told (plain : execution.Plain) :
    reports execution.told =
      reports (diagnostics execution.action.tag execution.handled execution.outcome) := by
  rw [Execution.told, reports_append, plain.quiet]
  rfl

theorem Execution.Plain.accounts (plain : execution.Plain) (ofNode : execution.Of node) :
    node.Accounts execution.outcome execution.told := by
  refine ⟨?_, ?_, ?_, ?_⟩
  · intro output succeeded
    simp [plain.told, succeeded, diagnostics]
  · intro fault failed mistake
    simp [plain.told, failed, diagnostics, diagnostic?, mistake, ofNode.tag, Node.report]
  · intro fault failed expected bare
    simp [plain.told, failed, diagnostics, diagnostic?, expected, ofNode.handled, bare,
      ofNode.tag, Node.report]
  · intro fault failed expected handles
    simp [plain.told, failed, diagnostics, diagnostic?, expected, ofNode.handled, handles]

/-- A warning is on a fault that nothing handles. -/
theorem Execution.Plain.unhandled (plain : execution.Plain) {text : String}
    (warns : (.warning, text) ∈ reports execution.told) : ∃ fault, execution.Unhandled fault := by
  rw [plain.told] at warns
  cases failed : execution.outcome with
  | ok output => simp [failed, diagnostics] at warns
  | error fault =>
      refine ⟨fault, failed, ?_⟩
      cases handled : execution.handled with
      | false => rfl
      | true =>
          cases mistake : fault.isMistake with
          | false => simp [failed, handled, mistake, diagnostics, diagnostic?] at warns
          | true => simp [failed, mistake, diagnostics, diagnostic?] at warns

theorem Execution.Plain.length_le (plain : execution.Plain) :
    (reports execution.told).length ≤ 1 := by
  rw [plain.told]
  cases execution.outcome with
  | ok output => simp [diagnostics]
  | error fault =>
      apply Nat.le_trans (List.length_filterMap_le _ _)
      cases diagnostic? execution.action.tag fault execution.handled <;> simp [diagnostics, *]

theorem Execution.Plain.ends (plain : execution.Plain) (ofNode : execution.Of node)
    (unhandled : execution.Unhandled fault) : execution.told = [node.diagnostic fault] := by
  rw [Execution.told, plain.silent fault unhandled.1, unhandled.1, unhandled.2]
  cases mistake : fault.isMistake <;>
    simp [diagnostics, diagnostic?, mistake, ofNode.tag, Node.diagnostic, Node.report]

end Told

/-! ### Messages of a run -/

/-- Actions whose failures are handled give no warning. -/
theorem no_warning_of_handled {executed : List Execution}
    (plain : ∀ execution ∈ executed, execution.Plain)
    (handled : ∀ execution ∈ executed, ∀ fault, ¬execution.Unhandled fault) :
    (reports (executed.flatMap Execution.told)).countP (fun report => report.1 = .warning) =
      0 := by
  induction executed with
  | nil => rfl
  | cons execution rest ih =>
      rw [List.flatMap_cons, reports_append, List.countP_append]
      have later := ih (fun other member => plain other (List.mem_cons_of_mem _ member))
        fun other member => handled other (List.mem_cons_of_mem _ member)
      rw [later, Nat.add_zero, List.countP_eq_zero]
      rintro ⟨level, text⟩ member warns
      have level_eq : level = .warning := by simpa using warns
      subst level_eq
      rcases (plain execution List.mem_cons_self).unhandled member with ⟨fault, unhandled⟩
      exact handled execution List.mem_cons_self fault unhandled

theorem Run.Settles.once {run : Run} (settles : run.Settles)
    (plain : ∀ execution ∈ run.executed, execution.Plain) :
    (reports (run.executed.flatMap Execution.told)).countP
      (fun report => report.1 = .warning) ≤ 1 := by
  rcases settles with completes | ⟨earlier, failing, fault, aborts⟩
  · rw [no_warning_of_handled plain completes.handled]
    exact Nat.zero_le 1
  · rw [aborts.executed] at plain ⊢
    rw [List.flatMap_append, reports_append, List.countP_append]
    have before := no_warning_of_handled
      (fun execution member => plain execution (List.mem_append_left _ member)) aborts.handled
    rw [before, Nat.zero_add, List.flatMap_singleton]
    have last := plain failing (List.mem_append_right _ (List.mem_singleton_self failing))
    exact Nat.le_trans List.countP_le_length last.length_le

theorem Speech.last {nodes : List Node} {engine last : Engine} {message : Message}
    {earlier : List (Execution × List Message)} {failing : Execution}
    (speech : Speech runSteps nodes engine (earlier ++ [(failing, [message])]) last) :
    last.sent.head? = some message := by
  induction earlier generalizing engine with
  | nil =>
      cases speech with
      | cons node scope among executes waits sends goesOn =>
          cases goesOn
          rw [sends]
          rfl
  | cons entry rest ih =>
      cases speech with
      | cons node scope among executes waits sends goesOn => exact ih goesOn

/-- The diagnostics of every run account for its failures. -/
theorem run_accounts (runSteps : Runner) (trigger : Trigger) (fields : Fields)
    (engine : Engine) :
    ∃ spoken, Accounts runSteps trigger engine (engine.run runSteps trigger fields).2
      (engine.run runSteps trigger fields).1 spoken := by
  have sequence := trigger.run_sequence runSteps [] { fields } engine
  have settles := (Trigger.run_induction (runCases_settles runSteps) trigger [] { fields } engine).2
  rcases sequence.speech with ⟨plain, speech⟩
  refine ⟨_, ?_, ⟨_, speech, rfl⟩, ?_, ?_, ?_⟩
  · rw [List.map_map]
    exact List.map_id' _
  · intro entry member node among same
    rcases List.mem_map.1 member with ⟨execution, executed, rfl⟩
    rcases sequence.exists_node executed with ⟨own, ownAmong, ofOwn⟩
    have nodes : own = node := List.inj_on_of_nodup_map (trigger.nodup_places []) ownAmong among
      (ofOwn.place.symm.trans same.symm)
    exact (plain execution executed).accounts (nodes ▸ ofOwn)
  · rw [List.flatMap_map]
    exact settles.once plain
  · intro fault failed
    rcases settles with completes | ⟨earlier, failing, other, aborts⟩
    · rcases completes.outcome with ⟨output, succeeded⟩
      cases failed.symm.trans succeeded
    · cases failed.symm.trans aborts.outcome
      have executed : failing ∈ (trigger.run runSteps [] { fields } engine).1.executed := by
        rw [aborts.executed]
        exact List.mem_append_right _ (List.mem_singleton_self failing)
      rcases sequence.exists_node executed with ⟨node, among, ofNode⟩
      have told := (plain failing executed).ends ofNode aborts.unhandled
      refine ⟨node, among, ⟨failing, executed, ofNode.place, aborts.unhandled.1⟩, ?_, ?_⟩
      · rw [List.flatMap_map, aborts.executed, List.flatMap_append, List.flatMap_singleton, told]
        exact List.getLast?_concat
      · rw [aborts.executed, List.map_append, List.map_singleton, told] at speech
        exact speech.last

end Engine

end Storyboard
