import Mathlib.Data.List.Forall2
import Storyboard.Proofs.Engine.History
/-!
# Retellings

An engine records what it does: the phases that it passes through, the messages that it sends,
the calls that it makes and the moments of its history. It never acts on these records. So two
engines that differ in nothing else do the same, whatever is done to both of them, and what they
record of it differs only in the way in which it differed before.

A retelling is such a way: which phases, messages and actions may stand for which others. The
exact one tells everything as it was, except that it may leave out where an engine was idle.

Main definitions: `Retelling`, and `Retelling.SameEngine` for engines that differ by one.
Main results: `Retelling.SameWork.execute` for one action, and `Retelling.SameEngine.eq` for the
exact retelling.
-/

namespace Storyboard

namespace Engine

/-- What an engine records and does not act on. -/
structure Records where
  phases : List Phase
  sent : List Message
  history : List Moment
  calls : List (Call Entry)

def withRecords (engine : Engine) (records : Records) : Engine :=
  { engine with
    phases := records.phases
    sent := records.sent
    history := records.history
    calls := records.calls }

/-- How two tellings of the same doings may differ. The second of two actions that stand for one
another is performed as the first one is, but may go by another name. -/
structure Retelling where
  phase : Phase → Phase → Prop
  phases : List Phase → List Phase → Prop
  message : Message → Message → Prop
  action : Action → Action → Prop
  depth : Nat → Nat → Prop
  phase_refl : ∀ told, phase told told
  phases_refl : ∀ told, phases told told
  phases_cons : ∀ {now otherNow told other}, phase now otherNow → phases told other →
    phases (now :: told) (otherNow :: other)
  message_refl : ∀ message', message message' message'
  action_refl : ∀ action', action action' action'
  depth_refl : ∀ depth', depth depth' depth'
  depth_succ : ∀ {first second}, depth first second → depth (first + 1) (second + 1)
  executing : ∀ {first second before after}, action first second → depth before after →
    phase (.executing first.tag before) (.executing second.tag after)
  settled : ∀ {first second}, action first second → ∀ outcome,
    phase (settled first.tag outcome) (settled second.tag outcome)
  diagnostics : ∀ {first second}, action first second → ∀ handled outcome,
    List.Forall₂ message (diagnostics first.tag handled outcome)
      (diagnostics second.tag handled outcome)
  resolve : ∀ {first second}, action first second → ∀ scopes,
    action (first.resolve scopes) (second.resolve scopes)
  perform : ∀ {first second}, action first second → ∀ runSteps,
    perform runSteps second = perform runSteps first

/-- The phases of actions. -/
def active (phases : List Phase) : List Phase := phases.filter (· ≠ .idle)

namespace Retelling

/-- Nothing is told differently, but an engine may have been idle in between. -/
def exact : Retelling where
  phase := Eq
  phases told other := active other = active told
  message := Eq
  action := Eq
  depth := Eq
  phase_refl _ := rfl
  phases_refl _ := rfl
  phases_cons now told := by
    unfold active at told ⊢
    rw [now, List.filter_cons, List.filter_cons, told]
  message_refl _ := rfl
  action_refl _ := rfl
  depth_refl _ := rfl
  depth_succ same := congrArg (· + 1) same
  executing acts same := by rw [acts, same]
  settled acts _ := by rw [acts]
  diagnostics acts _ _ := by
    rw [acts]
    exact List.forall₂_eq_eq_eq ▸ rfl
  resolve acts _ := by rw [acts]
  perform acts _ := by rw [acts]

variable (retelling : Retelling)

structure SameSnapshot (seen other : Snapshot) : Prop where
  context : other.context = seen.context
  kept : other.kept = seen.kept
  phase : retelling.phase seen.phase other.phase
  sent : List.Forall₂ retelling.message seen.sent other.sent
  backups : other.backups = seen.backups

inductive SameHappening : Happening → Happening → Prop where
  | same (happening : Happening) : SameHappening happening happening
  | executing {action other : Action} (acts : retelling.action action other) :
      SameHappening (.executing action) (.executing other)
  | executed {action other : Action} (acts : retelling.action action other)
      (outcome : Outcome) : SameHappening (.executed action outcome) (.executed other outcome)

structure SameMoment (moment other : Moment) : Prop where
  happening : retelling.SameHappening moment.happening other.happening
  seen : retelling.SameSnapshot moment.seen other.seen

mutual

/-- The same calls of the same collaborators, observed at the same moments. -/
inductive SameCalls : List (Call Entry) → List (Call Entry) → Prop where
  | same (calls : List (Call Entry)) : SameCalls calls calls
  | handler {calls others : List (Call Entry)} {moment otherMoment : Snapshot}
      {during otherDuring : Option (List Entry)} (name : String) (params : Option Fields)
      (earlier : SameCalls calls others) (seen : retelling.SameSnapshot moment otherMoment)
      (waited : SameWait during otherDuring) :
      SameCalls (calls ++ [.handler name params moment during])
        (others ++ [.handler name params otherMoment otherDuring])
  | request {calls others : List (Call Entry)} {moment otherMoment : Snapshot}
      {during otherDuring : Option (List Entry)} (request : Http.Request)
      (earlier : SameCalls calls others) (seen : retelling.SameSnapshot moment otherMoment)
      (waited : SameWait during otherDuring) :
      SameCalls (calls ++ [.request request moment during])
        (others ++ [.request request otherMoment otherDuring])

/-- The same steps of a collaborator, if it took any. -/
inductive SameWait : Option (List Entry) → Option (List Entry) → Prop where
  | none : SameWait none none
  | some {entries others : List Entry} (same : SameEntries entries others) :
      SameWait (some entries) (some others)

inductive SameEntries : List Entry → List Entry → Prop where
  | nil : SameEntries [] []
  | cons {messages otherMessages : Option (List Message)} {calls others : List (Call Entry)}
      {after otherAfter : Snapshot} {entries otherEntries : List Entry}
      (answer : Option Answer) (reads : List String)
      (told : Option.Rel (List.Forall₂ retelling.message) messages otherMessages)
      (called : SameCalls calls others) (seen : retelling.SameSnapshot after otherAfter)
      (goesOn : SameEntries entries otherEntries) :
      SameEntries (.mk answer messages reads calls after :: entries)
        (.mk answer otherMessages reads others otherAfter :: otherEntries)

end

/-- Two engines that have done the same, the current phase aside: an engine between two actions,
where the next one brings a phase of its own. -/
structure SameWork (engine other : Engine) : Prop where
  same : ∃ records, other = engine.withRecords records
  phases : retelling.phases engine.phases other.phases
  sent : List.Forall₂ retelling.message engine.sent other.sent
  history : List.Forall₂ retelling.SameMoment engine.history other.history
  calls : retelling.SameCalls engine.calls other.calls

/-- Two engines that have done the same. -/
structure SameEngine (engine other : Engine) : Prop extends SameWork retelling engine other where
  phase : retelling.phase engine.phase other.phase

/-- The same result, with engines that have done the same. -/
structure SameResult {α : Type} (result other : α × Engine) : Prop where
  value : other.1 = result.1
  engine : retelling.SameEngine result.2 other.2

structure SameScope (scope other : Scope) : Prop where
  fields : other.fields = scope.fields
  response : other.response = scope.response
  error : other.error = scope.error
  depth : retelling.depth scope.depth other.depth

/-- The same action executed with the same outcome, wherever it stands. -/
structure SameExecution (execution other : Execution) : Prop where
  scope : retelling.SameScope execution.scope other.scope
  action : retelling.action execution.action other.action
  outcome : other.outcome = execution.outcome
  messages : other.messages = execution.messages
  handled : other.handled = execution.handled

/-- Steps taken on engines that have done the same. -/
structure SameSteps (result other : List Entry × Engine) : Prop where
  entries : retelling.SameEntries result.1 other.1
  engine : retelling.SameEngine result.2 other.2

/-- Whatever steps a runner takes, it takes the same ones on engines that have done the same. -/
def Keeps (runSteps : Runner) : Prop :=
  ∀ ⦃engine other : Engine⦄, retelling.SameEngine engine other → ∀ steps,
    retelling.SameSteps (runSteps steps engine) (runSteps steps other)

variable {retelling}

variable {engine other next otherNext : Engine} {runSteps : Runner} {α : Type}

theorem SameResult.exists {result otherResult : α × Engine}
    (same : retelling.SameResult result otherResult) :
    ∃ value next otherNext, result = (value, next) ∧ otherResult = (value, otherNext) ∧
      retelling.SameEngine next otherNext :=
  ⟨result.1, result.2, otherResult.2, rfl, Prod.ext same.value rfl, same.engine⟩

theorem SameSnapshot.refl (seen : Snapshot) : retelling.SameSnapshot seen seen :=
  ⟨rfl, rfl, retelling.phase_refl _, List.forall₂_same.2 fun message _ =>
    retelling.message_refl message, rfl⟩

theorem SameEngine.refl (engine : Engine) : retelling.SameEngine engine engine where
  same := ⟨⟨engine.phases, engine.sent, engine.history, engine.calls⟩, rfl⟩
  phases := retelling.phases_refl engine.phases
  sent := List.forall₂_same.2 fun message _ => retelling.message_refl message
  history := List.forall₂_same.2 fun moment _ => ⟨.same moment.happening, .refl moment.seen⟩
  calls := .same engine.calls
  phase := retelling.phase_refl engine.phase

theorem SameScope.refl (scope : Scope) : retelling.SameScope scope scope :=
  ⟨rfl, rfl, rfl, retelling.depth_refl scope.depth⟩

/-! ### What only reads and writes the rest -/

theorem SameWork.reads {f : Engine → α} (same : retelling.SameWork engine other)
    (deaf : ∀ records, f (engine.withRecords records) = f engine) : f other = f engine := by
  rcases same.same with ⟨records, rfl⟩
  exact deaf records

theorem SameEngine.snapshot (same : retelling.SameEngine engine other) :
    retelling.SameSnapshot engine.snapshot other.snapshot := by
  refine ⟨?_, ?_, same.phase, same.sent, ?_⟩
  · exact same.reads (f := Engine.context) fun _ => rfl
  · exact same.reads (f := fun engine => engine.library.kept.keys) fun _ => rfl
  · exact same.reads (f := Engine.backups) fun _ => rfl

/-- An operation that neither reads nor writes the records. -/
theorem SameEngine.move {f : Engine → Engine} (same : retelling.SameEngine engine other)
    (deaf : ∀ records, f (engine.withRecords records) = (f engine).withRecords records) :
    retelling.SameEngine (f engine) (f other) := by
  have own : f engine = (f engine).withRecords
      ⟨engine.phases, engine.sent, engine.history, engine.calls⟩ :=
    deaf ⟨engine.phases, engine.sent, engine.history, engine.calls⟩
  rcases same with ⟨⟨⟨records, rfl⟩, phases, sent, history, calls⟩, phase⟩
  rw [deaf, own]
  exact ⟨⟨⟨records, rfl⟩, phases, sent, history, calls⟩, phase⟩

theorem SameEngine.ask {f : Engine → α × Engine} (same : retelling.SameEngine engine other)
    (deaf : ∀ records, f (engine.withRecords records) =
      ((f engine).1, (f engine).2.withRecords records)) :
    retelling.SameResult (f engine) (f other) := by
  have moved := same.move (f := fun engine => (f engine).2)
    fun records => congrArg Prod.snd (deaf records)
  refine ⟨?_, moved⟩
  rcases same.same with ⟨records, rfl⟩
  rw [deaf]

/-! ### What is recorded -/

theorem SameWork.enter {phase otherPhase : Phase} (same : retelling.SameWork engine other)
    (told : retelling.phase phase otherPhase) :
    retelling.SameEngine (engine.enter phase) (other.enter otherPhase) := by
  rcases same with ⟨⟨records, rfl⟩, phases, sent, history, calls⟩
  exact ⟨⟨⟨{ records with phases := otherPhase :: records.phases }, rfl⟩,
    retelling.phases_cons told phases, sent, history, calls⟩, told⟩

theorem SameEngine.sendAll {messages otherMessages : List Message}
    (same : retelling.SameEngine engine other)
    (told : List.Forall₂ retelling.message messages otherMessages) :
    retelling.SameEngine (engine.sendAll messages) (other.sendAll otherMessages) := by
  rcases same with ⟨⟨⟨records, rfl⟩, phases, sent, history, calls⟩, phase⟩
  rw [sendAll_eq, sendAll_eq]
  refine ⟨⟨⟨{ records with sent := otherMessages.reverse ++ records.sent }, rfl⟩, phases, ?_,
    history, calls⟩, phase⟩
  exact List.rel_append (List.rel_reverse told) sent

theorem SameEngine.send (same : retelling.SameEngine engine other) (message : Message) :
    retelling.SameEngine (engine.send message) (other.send message) :=
  same.sendAll (.cons (retelling.message_refl message) .nil)

theorem SameEngine.mark {happening otherHappening : Happening}
    (same : retelling.SameEngine engine other)
    (happens : retelling.SameHappening happening otherHappening) :
    retelling.SameEngine (engine.mark happening) (other.mark otherHappening) := by
  have seen := same.snapshot
  rcases same with ⟨⟨⟨records, rfl⟩, phases, sent, history, calls⟩, phase⟩
  exact ⟨⟨⟨{ records with history := _ :: records.history }, rfl⟩, phases, sent,
    .cons ⟨happens, seen⟩ history, calls⟩, phase⟩

theorem SameEngine.setCalls {calls others : List (Call Entry)}
    (same : retelling.SameEngine engine other) (called : retelling.SameCalls calls others) :
    retelling.SameEngine { engine with calls } { other with calls := others } := by
  rcases same with ⟨⟨⟨records, rfl⟩, phases, sent, history, -⟩, phase⟩
  exact ⟨⟨⟨{ records with calls := others }, rfl⟩, phases, sent, history, called⟩, phase⟩

theorem SameEngine.unobserved (same : retelling.SameEngine engine other) :
    List.Forall₂ retelling.message engine.unobserved other.unobserved := by
  have observed := same.reads (f := Engine.observed) fun _ => rfl
  unfold Engine.unobserved
  rw [observed, ← same.sent.length_eq]
  exact List.rel_reverse (List.forall₂_take _ same.sent)

/-- Observing an engine sets aside what was observed. -/
theorem SameEngine.observe (same : retelling.SameEngine engine other) (answer : Option Answer) :
    retelling.SameEngine (engine.observe answer).2 (other.observe answer).2 := by
  have length := same.sent.length_eq
  unfold Engine.observe
  rw [← length]
  exact same.move (f := fun engine' =>
    { engine' with
      observed := engine.sent.length, library := { engine'.library with reads := [] } })
    fun _ => rfl

/-! ### Actions -/

theorem SameEngine.load (same : retelling.SameEngine engine other) (flow : String) :
    retelling.SameResult (engine.load flow) (other.load flow) := by
  have marked := same.mark (.same (.loading flow))
  have loaded := marked.move
    (f := fun engine => { engine with library := (engine.library.load flow).2 }) fun _ => rfl
  refine ⟨?_, loaded⟩
  exact same.reads (f := fun engine => (engine.library.load flow).1) fun _ => rfl

theorem SameEngine.navigate (same : retelling.SameEngine engine other) (screen : String) :
    retelling.SameResult (engine.navigate screen) (other.navigate screen) := by
  have context := same.reads (f := Engine.context) fun _ => rfl
  rcases (same.load engine.context.current.flow).exists with
    ⟨result, next, otherNext, loads, otherLoads, loaded⟩
  simp only [Engine.navigate, context, loads, otherLoads]
  obtain ⟨records, rfl⟩ : ∃ records, otherNext = next.withRecords records := loaded.same
  cases result with
  | error fault => exact ⟨rfl, loaded⟩
  | ok flow =>
      cases has : flow.hasScreen screen with
      | false =>
          simp only [has]
          exact ⟨rfl, loaded⟩
      | true =>
          simp only [has]
          exact ⟨rfl, loaded.move (f := fun engine =>
            { engine with context := engine.context.replaceScreen screen }) fun _ => rfl⟩

theorem SameEngine.navigateToFlow (same : retelling.SameEngine engine other)
    (flow screen : String) (data : Option Fields) :
    retelling.SameResult (engine.navigateToFlow flow screen data)
      (other.navigateToFlow flow screen data) := by
  unfold Engine.navigateToFlow
  rcases (same.load flow).exists with ⟨result, next, otherNext, loads, otherLoads, loaded⟩
  rw [loads, otherLoads]
  obtain ⟨records, rfl⟩ : ∃ records, otherNext = next.withRecords records := loaded.same
  cases result with
  | error fault => exact ⟨rfl, loaded⟩
  | ok found =>
      cases has : found.hasScreen screen with
      | false =>
          simp only [has]
          exact ⟨rfl, loaded⟩
      | true =>
          simp only [has]
          exact ⟨rfl, loaded.move (f := fun engine =>
            { engine with context := (engine.context.push ⟨flow, screen⟩ data).2 }) fun _ => rfl⟩

theorem SameEngine.currentScreen (same : retelling.SameEngine engine other) (fields : Fields) :
    retelling.SameResult (engine.currentScreen fields) (other.currentScreen fields) := by
  have context := same.reads (f := Engine.context) fun _ => rfl
  have shown := same.load engine.context.current.flow
  refine ⟨?_, ?_⟩
  · exact same.reads (f := fun engine => (engine.currentScreen fields).1) fun records => by
      rw [currentScreen_fst, currentScreen_fst]
      rfl
  · rw [currentScreen_snd, currentScreen_snd, context]
    exact shown.engine

theorem SameEngine.takeReply (same : retelling.SameEngine engine other) (endpoint : String) :
    retelling.SameResult (engine.takeReply endpoint) (other.takeReply endpoint) := by
  apply same.ask (f := fun engine => engine.takeReply endpoint)
  intro records
  have replies : (engine.withRecords records).replies = engine.replies := rfl
  simp only [Engine.takeReply, replies]
  rcases engine.replies.get? endpoint with _ | _ | ⟨reply, _ | _⟩ <;> rfl

/-! ### Writes of the host -/

theorem SameEngine.setValue (same : retelling.SameEngine engine other) (key : String)
    (value : Json) :
    retelling.SameEngine (engine.setValue key value) (other.setValue key value) := by
  have written := same.move (f := fun engine =>
    { engine with
      context := { engine.context with session := engine.context.session.set key value } })
    fun _ => rfl
  exact written.send (.sessionUpdated [key])

theorem SameEngine.dropValue (same : retelling.SameEngine engine other) (key : String) :
    retelling.SameResult (engine.dropValue key) (other.dropValue key) := by
  have context := same.reads (f := Engine.context) fun _ => rfl
  unfold Engine.dropValue
  rw [context]
  rcases engine.context.session.remove key with ⟨_ | value, session⟩
  · exact ⟨rfl, same⟩
  · have written := same.move (f := fun engine =>
      { engine with context := { engine.context with session } }) fun _ => rfl
    rw [context] at written
    exact ⟨rfl, written.send (.sessionUpdated [key])⟩

theorem SameEngine.logout (same : retelling.SameEngine engine other) :
    retelling.SameEngine engine.logout other.logout := by
  have root := same.reads (f := Engine.root) fun _ => rfl
  have emptied := same.move (f := fun engine =>
    { engine with context := engine.context.reset engine.root }) fun _ => rfl
  unfold Engine.logout
  rw [root] at emptied ⊢
  exact (emptied.send .sessionCleared).send _

theorem SameEngine.restore (same : retelling.SameEngine engine other) (backup : Context) :
    retelling.SameEngine (engine.restore backup) (other.restore backup) := by
  have restored := same.move (f := fun engine => { engine with context := backup }) fun _ => rfl
  exact (restored.send _).send _

section Collaborators

variable (keeps : retelling.Keeps runSteps)
include keeps

theorem SameEngine.sendRequest (same : retelling.SameEngine engine other)
    (request : Http.Request) :
    retelling.SameResult (engine.sendRequest runSteps request)
      (other.sendRequest runSteps request) := by
  have seen := same.snapshot
  unfold Engine.sendRequest
  rcases ((same.mark (.same (.requesting request))).takeReply request.endpoint).exists with
    ⟨reply, next, otherNext, taken, otherTaken, waiting⟩
  rw [taken, otherTaken]
  cases during : reply.during with
  | none =>
      simp only [during]
      exact ⟨rfl, waiting.setCalls (.request request waiting.calls seen .none)⟩
  | some steps =>
      simp only [during]
      rcases keeps waiting steps with ⟨entries, waited⟩
      exact ⟨rfl, waited.setCalls (.request request waited.calls seen (.some entries))⟩

theorem SameEngine.callHandler (same : retelling.SameEngine engine other) (name : String)
    (params : Option Fields) :
    retelling.SameResult (engine.callHandler runSteps name params)
      (other.callHandler runSteps name params) := by
  have seen := same.snapshot
  have registry := same.reads (f := Engine.registry) fun _ => rfl
  unfold Engine.callHandler
  rw [registry]
  cases engine.registry.get? name with
  | none => exact ⟨rfl, same⟩
  | some handler =>
      have waiting := same.mark (.same (.calling name params))
      cases during : handler.during with
      | none =>
          simp only [Callback.Handler.invoke, during]
          exact ⟨rfl, waiting.setCalls (.handler name params waiting.calls seen .none)⟩
      | some steps =>
          simp only [Callback.Handler.invoke, during]
          rcases keeps waiting steps with ⟨entries, waited⟩
          exact ⟨rfl, waited.setCalls (.handler name params waited.calls seen (.some entries))⟩

theorem SameEngine.perform (same : retelling.SameEngine engine other) (action : Action) :
    retelling.SameResult (Engine.perform runSteps action engine)
      (Engine.perform runSteps action other) := by
  cases action with
  | navigate screen => exact same.navigate screen
  | navigateToFlow flow screen data => exact same.navigateToFlow flow screen data
  | setState updates => exact same.ask (f := fun engine => engine.setState updates) fun _ => rfl
  | goBack steps clearData =>
      exact same.ask (f := fun engine => engine.goBack steps clearData) fun _ => rfl
  | apiCall method endpoint headers body => exact same.sendRequest keeps _
  | custom handler params =>
      rcases same.callHandler keeps handler params with ⟨value, called⟩
      exact ⟨congrArg (fun outcome => ({ outcome } : Effect)) value, called⟩
  | executeCallback name params =>
      rcases same.callHandler keeps name params with ⟨value, called⟩
      exact ⟨congrArg (fun outcome => ({ outcome } : Effect)) value, called⟩

/-- An action that stands for another one is executed as that one is. It finds the phase that it
enters itself. -/
theorem SameWork.execute (same : retelling.SameWork engine other) (place otherPlace : List Edge)
    {scope otherScope : Scope} (scopes : retelling.SameScope scope otherScope)
    {action otherAction : Action} (acts : retelling.action action otherAction) (handled : Bool) :
    retelling.SameExecution
        (Engine.execute runSteps place scope action handled engine).1
        (Engine.execute runSteps otherPlace otherScope otherAction handled other).1 ∧
      retelling.SameEngine
        (Engine.execute runSteps place scope action handled engine).2
        (Engine.execute runSteps otherPlace otherScope otherAction handled other).2 := by
  have context := same.reads (f := Engine.context) fun _ => rfl
  have resolves := retelling.resolve acts
    (engine.context.scopes scope.fields scope.response scope.error)
  rw [execute_eq, execute_eq, context, scopes.fields, scopes.response, scopes.error]
  revert resolves
  generalize action.resolve _ = resolved, otherAction.resolve _ = otherResolved
  intro resolves
  have ready := (same.enter (retelling.executing resolves scopes.depth)).mark (.executing resolves)
  rcases (ready.perform keeps resolved).exists with
    ⟨effect, next, otherNext, performs, otherPerforms, performed⟩
  rw [← retelling.perform resolves] at otherPerforms
  dsimp only
  rw [performs, otherPerforms]
  refine ⟨⟨scopes, resolves, rfl, rfl, rfl⟩, ?_⟩
  refine SameEngine.mark ?_ (.executed resolves effect.outcome)
  apply SameEngine.sendAll
  · apply SameWork.enter
    · exact (performed.sendAll (List.forall₂_same.2 fun message _ =>
        retelling.message_refl message)).toSameWork
    · exact retelling.settled resolves effect.outcome
  · exact retelling.diagnostics resolves handled effect.outcome

end Collaborators

/-! ### Telling the same -/

theorem eq_of_forall₂ {items others : List α} (same : List.Forall₂ Eq items others) :
    others = items :=
  ((congrFun₂ List.forall₂_eq_eq_eq items others).mp same).symm

theorem SameSnapshot.eq {seen other : Snapshot} (same : exact.SameSnapshot seen other) :
    other = seen := by
  rcases seen with ⟨context, kept, phase, sent, backups⟩
  rcases other with ⟨otherContext, otherKept, otherPhase, otherSent, otherBackups⟩
  rw [Snapshot.mk.injEq]
  exact ⟨same.context, same.kept, Eq.symm same.phase, eq_of_forall₂ same.sent, same.backups⟩

theorem SameHappening.eq {happening other : Happening}
    (same : exact.SameHappening happening other) : other = happening := by
  cases same with
  | same => rfl
  | executing acts => rw [show _ = _ from acts]
  | executed acts outcome => rw [show _ = _ from acts]

theorem SameMoment.eq {moment other : Moment} (same : exact.SameMoment moment other) :
    moment = other := by
  rcases moment with ⟨happening, seen⟩
  rcases other with ⟨otherHappening, otherSeen⟩
  rw [Moment.mk.injEq]
  exact ⟨same.happening.eq.symm, same.seen.eq.symm⟩

mutual

theorem SameCalls.eq {calls others : List (Call Entry)} : exact.SameCalls calls others →
    others = calls
  | .same _ => rfl
  | .handler name params earlier seen waited => by rw [earlier.eq, seen.eq, waited.eq]
  | .request request earlier seen waited => by rw [earlier.eq, seen.eq, waited.eq]

theorem SameWait.eq {during otherDuring : Option (List Entry)} :
    exact.SameWait during otherDuring → otherDuring = during
  | .none => rfl
  | .some same => by rw [same.eq]

theorem SameEntries.eq {entries others : List Entry} : exact.SameEntries entries others →
    others = entries
  | .nil => rfl
  | .cons answer reads told called seen goesOn => by
      rw [goesOn.eq, called.eq, seen.eq]
      cases told with
      | none => rfl
      | some told => rw [eq_of_forall₂ told]

end

theorem SameScope.eq {scope other : Scope} (same : exact.SameScope scope other) :
    other = scope := by
  rcases scope with ⟨fields, response, error, depth⟩
  rcases other with ⟨otherFields, otherResponse, otherError, otherDepth⟩
  rw [Scope.mk.injEq]
  exact ⟨same.fields, same.response, same.error, Eq.symm same.depth⟩

theorem SameExecution.eq {execution moved : Execution}
    (same : exact.SameExecution execution moved) :
    moved = { execution with place := moved.place } := by
  rcases execution with ⟨place, scope, action, outcome, messages, handled⟩
  rcases moved with ⟨otherPlace, otherScope, otherAction, otherOutcome, otherMessages,
    otherHandled⟩
  rw [Execution.mk.injEq]
  exact ⟨rfl, same.scope.eq, Eq.symm same.action, same.outcome, same.messages, same.handled⟩

/-- Engines that tell the same of the same doings are equal, but for having been idle. -/
theorem SameEngine.eq {engine other : Engine} (same : exact.SameEngine engine other) :
    other = { engine with phases := other.phases } := by
  rcases same with ⟨⟨⟨records, rfl⟩, phases, sent, history, calls⟩, phase⟩
  have told : records.sent = engine.sent := eq_of_forall₂ sent
  have called : records.calls = engine.calls := calls.eq
  have moments : records.history = engine.history :=
    eq_of_forall₂ (history.imp fun moment other same => same.eq)
  simp only [withRecords, told, called, moments]

/-- It makes no difference that an engine is idle before it goes on. -/
theorem SameWork.of_idle (engine : Engine) : exact.SameWork (engine.enter .idle) engine :=
  have told := SameEngine.refl engine
  ⟨⟨⟨engine.phases, engine.sent, engine.history, engine.calls⟩, rfl⟩, rfl, told.sent,
    told.history, told.calls⟩

end Retelling

end Engine

end Storyboard
