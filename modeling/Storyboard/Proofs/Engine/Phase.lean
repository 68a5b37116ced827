import Storyboard.Proofs.Engine.Always
/-!
# Phases and runs in progress

An engine keeps a single phase, and every run ends by making it idle, whether or not another
run is still in progress around it. So the phase is idle whenever no run is in progress. While
one is, the phase is idle exactly if a run has ended since an action last began or ended: the
run that ended was nested in the one that waits.

Main result: `idle_iff_ended`.
-/

namespace Storyboard

namespace Engine

def Step.trigger? : Step → Option Trigger
  | .event written =>
    match Event.ofJson? written with
    | some (.actionTriggered action _) => (Trigger.ofJson action).toOption
    | some .backPressed => some backAction
    | _ => none
  | .dispatch action _ => (Trigger.ofJson action).toOption
  | _ => none

def Step.runs (step : Step) : Bool := step.trigger?.isSome

/-- The steps whose runs are in progress, the innermost first. A run is in progress from when
its step is asked for until the step is answered. -/
def inProgress : List Moment → List Step
  | [] => []
  | moment :: earlier =>
    match moment.happening with
    | .asked step => if step.runs then step :: inProgress earlier else inProgress earlier
    | .answered step _ => if step.runs then (inProgress earlier).tail else inProgress earlier
    | _ => inProgress earlier

namespace Happening

/-- Whether a collaborator is called or a step ends. -/
def observable : Happening → Bool
  | answered .. | loading _ | calling .. | requesting _ => true
  | asked (.library _) => true
  | _ => false

def ofAction : Happening → Bool
  | executing _ | executed .. => true
  | _ => false

def endsRun : Happening → Bool
  | answered step _ => step.runs
  | _ => false

def beginsRun : Happening → Bool
  | asked step => step.runs
  | _ => false

/-- Whether neither an action nor a run begins or ends. -/
def plain (happening : Happening) : Bool :=
  !(happening.ofAction || happening.endsRun || happening.beginsRun)

end Happening

def runEndedLast : List Moment → Bool
  | [] => false
  | moment :: earlier =>
    moment.happening.endsRun || (!moment.happening.ofAction && runEndedLast earlier)

/-- What the phase tells at a moment. With no run in progress it is idle. With a run in
progress it is idle if and only if another run has ended and no action began or ended since. -/
structure PhaseTells (now : Moment) (earlier : List Moment) : Prop where
  free : inProgress (now :: earlier) = [] → now.seen.phase = .idle
  busy : inProgress (now :: earlier) ≠ [] →
    (now.seen.phase = .idle ↔ runEndedLast (now :: earlier) = true)

def Actionless (history : List Moment) : Prop :=
  ∀ moment ∈ history, moment.happening.ofAction = false

section Moments

variable {moment : Moment} {earlier : List Moment}

theorem inProgress_of_plain (plain : moment.happening.plain = true) :
    inProgress (moment :: earlier) = inProgress earlier := by
  rcases moment with ⟨happening, seen⟩
  cases happening <;> simp_all [inProgress, Happening.plain, Happening.ofAction,
    Happening.endsRun, Happening.beginsRun]

theorem inProgress_of_action (acts : moment.happening.ofAction = true) :
    inProgress (moment :: earlier) = inProgress earlier := by
  rcases moment with ⟨happening, seen⟩
  cases happening <;> simp_all [inProgress, Happening.ofAction]

theorem runEndedLast_of_plain (plain : moment.happening.plain = true) :
    runEndedLast (moment :: earlier) = runEndedLast earlier := by
  simp only [Happening.plain, Bool.not_eq_true', Bool.or_eq_false_iff] at plain
  simp [runEndedLast, plain]

theorem actionless_cons :
    Actionless (moment :: earlier) ↔ moment.happening.ofAction = false ∧ Actionless earlier := by
  simp [Actionless]

end Moments

/-- The runs in progress are these, each but the innermost has executed an action, and the
phase told the truth at every observable moment. -/
structure Tells (runs : List Step) (engine : Engine) : Prop where
  progress : inProgress engine.history = runs
  outer : runs.tail ≠ [] → ¬Actionless engine.history
  past : ∀ now earlier, now :: earlier <:+ engine.history →
    now.happening.observable = true → PhaseTells now earlier

/-- Besides, each of the runs waits for an action, or there are none, and the phase is what
it has to be then. -/
structure Waits (runs : List Step) (engine : Engine) : Prop where
  tells : Tells runs engine
  acted : runs ≠ [] → ¬Actionless engine.history
  phase : engine.phase = .idle ↔
    runEndedLast engine.history = true ∨ Actionless engine.history
  free : runs = [] → engine.phase = .idle

variable {runs : List Step} {engine next : Engine}

theorem Tells.of_eq (tells : Tells runs engine) (history : next.history = engine.history) :
    Tells runs next := by
  rcases tells with ⟨progress, outer, past⟩
  rw [← history] at progress outer past
  exact ⟨progress, outer, past⟩

theorem past_cons {moment : Moment} {earlier : List Moment}
    (past : ∀ now before, now :: before <:+ earlier →
      now.happening.observable = true → PhaseTells now before)
    (tells : moment.happening.observable = true → PhaseTells moment earlier) :
    ∀ now before, now :: before <:+ moment :: earlier →
      now.happening.observable = true → PhaseTells now before := by
  intro now before isSuffix observable
  rcases List.suffix_cons_iff.1 isSuffix with whole | old
  · cases whole
    exact tells observable
  · exact past now before old observable

namespace Waits

theorem of_eq (waits : Waits runs engine) (history : next.history = engine.history)
    (phases : next.phases = engine.phases) : Waits runs next := by
  have samePhase : next.phase = engine.phase := by
    rw [Engine.phase, Engine.phase, phases]
  refine ⟨waits.tells.of_eq history, ?_, ?_, ?_⟩
  · rw [history]
    exact waits.acted
  · rw [history, samePhase]
    exact waits.phase
  · rw [samePhase]
    exact waits.free

theorem phaseTells (waits : Waits runs engine) {happening : Happening}
    (plain : happening.plain = true) :
    PhaseTells ⟨happening, engine.snapshot⟩ engine.history := by
  have progress : inProgress (⟨happening, engine.snapshot⟩ :: engine.history) = runs :=
    (inProgress_of_plain plain).trans waits.tells.progress
  refine ⟨?_, ?_⟩
  · rw [progress]
    exact waits.free
  · rw [progress, runEndedLast_of_plain plain]
    intro busy
    exact waits.phase.trans (or_iff_left (waits.acted busy))

theorem mark (waits : Waits runs engine) (happening : Happening)
    (plain : happening.plain = true) : Waits runs (engine.mark happening) := by
  have acts : happening.ofAction = false := by
    simp only [Happening.plain, Bool.not_eq_true', Bool.or_eq_false_iff] at plain
    exact plain.1.1
  have actionless : Actionless (engine.mark happening).history ↔ Actionless engine.history :=
    actionless_cons.trans (and_iff_right acts)
  refine ⟨⟨?_, ?_, ?_⟩, ?_, ?_, waits.free⟩
  · exact (inProgress_of_plain plain).trans waits.tells.progress
  · rw [actionless]
    exact waits.tells.outer
  · exact past_cons waits.tells.past fun _ => waits.phaseTells plain
  · rw [actionless]
    exact waits.acted
  · have ended : runEndedLast (engine.mark happening).history = runEndedLast engine.history :=
      runEndedLast_of_plain plain
    rw [actionless, ended]
    exact waits.phase

/-- Once an action began or ended in a run in progress, the phase is that of the action. -/
theorem of_action (tells : Tells runs engine) (busy : runs ≠ []) (moment : Moment)
    (acts : moment.happening.ofAction = true) (history : next.history = moment :: engine.history)
    (phase : next.phase ≠ .idle) : Waits runs next := by
  have acted : ¬Actionless next.history := by
    rw [history, actionless_cons, acts]
    simp
  have silent : moment.happening.observable = false ∧ moment.happening.endsRun = false := by
    rcases moment with ⟨happening, seen⟩
    cases happening <;> simp_all [Happening.ofAction, Happening.observable, Happening.endsRun]
  refine ⟨⟨?_, fun _ => acted, ?_⟩, fun _ => acted, ?_, fun none => (busy none).elim⟩
  · rw [history, inProgress_of_action acts]
    exact tells.progress
  · rw [history]
    apply past_cons tells.past
    intro observable
    rw [silent.1] at observable
    cases observable
  · have ended : runEndedLast next.history = false := by
      rw [history, runEndedLast, silent.2, acts]
      rfl
    rw [ended]
    simp [phase, acted]

end Waits

/-! ### Actions -/

/-- What stays as long as no action and no run begins or ends, whatever a collaborator does. -/
structure Lasting (runSteps : Runner) (P : Engine → Prop) : Prop where
  of_eq : ∀ {engine next : Engine}, P engine → next.history = engine.history →
    next.phases = engine.phases → P next
  mark : ∀ {engine : Engine} happening, happening.plain = true → P engine →
    P (engine.mark happening)
  steps : ∀ steps engine, P engine → P (runSteps steps engine).2

variable {runSteps : Runner}

theorem plain_asked {step : Step} (runsNone : step.runs = false) :
    (Happening.asked step).plain = true := by
  simp [Happening.plain, Happening.ofAction, Happening.endsRun, Happening.beginsRun, runsNone]

theorem plain_answered {step : Step} (runsNone : step.runs = false) (answer : Answer) :
    (Happening.answered step answer).plain = true := by
  simp [Happening.plain, Happening.ofAction, Happening.endsRun, Happening.beginsRun, runsNone]

namespace Lasting

variable {P : Engine → Prop} (lasting : Lasting runSteps P)
include lasting

theorem load (holds : P engine) (flow : String) : P (engine.load flow).2 :=
  lasting.of_eq (lasting.mark (.loading flow) rfl holds) rfl rfl

theorem left {wait : Wait} (holds : P wait.engine) : P (wait.left runSteps) := by
  unfold Wait.left
  cases wait.during with
  | none => exact holds
  | some steps => exact lasting.steps steps _ holds

theorem sendRequest (holds : P engine) (request : Http.Request) :
    P (engine.sendRequest runSteps request).2 := by
  rcases waitForReply_engine engine request with ⟨replies, waiting⟩
  rcases sendRequest_leaves runSteps engine request with ⟨calls, leaves⟩
  have pending : P (engine.waitForReply request).engine := by
    rw [waiting]
    exact lasting.of_eq (lasting.mark (.requesting request) rfl holds) rfl rfl
  rw [leaves]
  exact lasting.of_eq (lasting.left pending) rfl rfl

theorem callHandler (holds : P engine) (name : String) (params : Option Fields) :
    P (engine.callHandler runSteps name params).2 := by
  rcases callHandler_leaves runSteps engine name params with ⟨calls, leaves⟩
  have pending : P (engine.waitForHandler name params).engine := by
    rcases waitForHandler_engine engine name params with same | marked
    · rw [same]
      exact holds
    · rw [marked]
      exact lasting.mark (.calling name params) rfl holds
  rw [leaves]
  exact lasting.of_eq (lasting.left pending) rfl rfl

theorem perform (holds : P engine) (action : Action) : P (perform runSteps action engine).2 := by
  cases action with
  | navigate screen =>
      rcases navigate_cases engine screen with ⟨_, -, -, _, rfl, navigated⟩ | ⟨fault, navigated⟩
      · rw [Engine.perform, navigated]
        exact lasting.of_eq (lasting.load holds _) rfl rfl
      · rw [Engine.perform, navigated]
        exact lasting.load holds _
  | navigateToFlow flow screen data =>
      rcases navigateToFlow_cases engine flow screen data with
        ⟨_, -, -, _, rfl, navigated⟩ | ⟨fault, navigated⟩
      · rw [Engine.perform, navigated]
        exact lasting.of_eq (lasting.load holds flow) rfl rfl
      · rw [Engine.perform, navigated]
        exact lasting.load holds flow
  | setState updates => exact lasting.of_eq holds rfl rfl
  | goBack steps clearData => exact lasting.of_eq holds rfl rfl
  | apiCall method endpoint headers body => exact lasting.sendRequest holds _
  | custom handler params => exact lasting.callHandler holds handler params
  | executeCallback name params => exact lasting.callHandler holds name params

theorem take (holds : P engine) {step : Step} (runsNone : step.runs = false) :
    P (take runSteps step engine).2 := by
  cases step with
  | event written =>
      cases read : Event.ofJson? written with
      | none => simpa only [Engine.take, read] using holds
      | some event =>
          cases event with
          | actionTriggered action fields =>
              cases parsed : Trigger.ofJson action with
              | ok trigger =>
                  simp [Step.runs, Step.trigger?, read, parsed, Except.toOption] at runsNone
              | error fault =>
                  simp only [Engine.take, read, handle, dispatch, parsed]
                  exact lasting.of_eq holds rfl rfl
          | backPressed => simp [Step.runs, Step.trigger?, read] at runsNone
          | flowStateChanged flow state =>
              simp only [Engine.take, read, handle]
              exact lasting.of_eq holds rfl rfl
          | logoutRequested =>
              simp only [Engine.take, read, handle]
              exact lasting.of_eq holds rfl rfl
  | dispatch action fields =>
      cases parsed : Trigger.ofJson action with
      | ok trigger => simp [Step.runs, Step.trigger?, parsed, Except.toOption] at runsNone
      | error fault =>
          simp only [Engine.take, dispatch, parsed]
          exact lasting.of_eq holds rfl rfl
  | screen fields =>
      change P (engine.currentScreen fields).2
      rw [currentScreen_snd]
      exact lasting.load holds engine.context.current.flow
  | drop key =>
      change P (engine.dropValue key).2
      rw [dropValue_eq]
      split
      · exact lasting.of_eq holds rfl rfl
      · exact holds
  | restore name =>
      cases found : engine.backups.get? name with
      | none => simpa only [Engine.take, found] using holds
      | some backup =>
          simp only [Engine.take, found]
          exact lasting.of_eq holds rfl rfl
  | registry request =>
      cases request with
      | execute name params => exact lasting.callHandler holds name params
      | _ => exact lasting.of_eq holds rfl rfl
  | _ => exact lasting.of_eq holds rfl rfl

/-- A step that runs nothing is observed. -/
theorem takeObserved (holds : P engine) {step : Step} (runsNone : step.runs = false) :
    P (takeObserved runSteps step engine).2 := by
  rw [takeObserved_snd]
  let asked : Engine := { engine.mark (.asked step) with calls := [] }
  let after := (Engine.take runSteps step asked).2
  let observed : Engine :=
    { after with
      calls := engine.calls
      observed := after.sent.length
      library := { after.library with reads := [] } }
  have waiting : P asked :=
    lasting.of_eq (lasting.mark (.asked step) (plain_asked runsNone) holds) rfl rfl
  have waited : P observed := lasting.of_eq (lasting.take waiting runsNone) rfl rfl
  exact lasting.mark (.answered step (Engine.take runSteps step asked).1)
    (plain_answered runsNone _) waited

end Lasting

def KeepsWaiting (runSteps : Runner) : Prop :=
  ∀ (steps : List Step) (engine : Engine) (runs : List Step),
    Waits runs engine → Waits runs (runSteps steps engine).2

theorem waits_lasting (sound : KeepsWaiting runSteps) (runs : List Step) :
    Lasting runSteps (Waits runs) where
  of_eq waits := waits.of_eq
  mark happening plain waits := waits.mark happening plain
  steps steps engine := sound steps engine runs

theorem settled_ne_idle (tag : String) (outcome : Outcome) : settled tag outcome ≠ .idle := by
  cases outcome <;> simp [settled]

/-- An executed action leaves its phase behind, whatever was nested in it. -/
theorem execute_waits (sound : KeepsWaiting runSteps) (tells : Tells runs engine)
    (busy : runs ≠ []) (place : List Edge) (scope : Scope) (action : Action) (handled : Bool) :
    Waits runs (execute runSteps place scope action handled engine).2 := by
  rw [execute_eq]
  generalize action.resolve (engine.context.scopes scope.fields scope.response scope.error) =
    resolved
  let ready := (engine.enter (.executing resolved.tag scope.depth)).mark (.executing resolved)
  let performed := perform runSteps resolved ready
  have begun : Waits runs ready :=
    .of_action tells busy ⟨.executing resolved, _⟩ rfl rfl nofun
  have waited : Waits runs performed.2 := (waits_lasting sound runs).perform begun resolved
  -- Settling enters a phase anew, so it does not matter in which one the nested runs left it.
  apply Waits.of_action waited.tells busy ⟨.executed resolved performed.1.outcome, _⟩ rfl
  · simp only [sendAll_eq]
    rfl
  · simp only [sendAll_eq]
    exact settled_ne_idle resolved.tag performed.1.outcome

/-! ### Steps -/

theorem run_tells (sound : KeepsWaiting runSteps) (tells : Tells runs engine) (busy : runs ≠ [])
    (trigger : Trigger) (fields : Fields) :
    Tells runs (engine.run runSteps trigger fields).2 ∧
      (engine.run runSteps trigger fields).2.phase = .idle := by
  have sequence := trigger.run_sequence runSteps [] { fields } engine
  have kept := sequence.keep (P := Tells runs)
    (fun place scope action handled engine tells =>
      (execute_waits sound tells busy place scope action handled).tells) tells
  exact ⟨kept.of_eq rfl, rfl⟩

theorem take_run {step : Step} {trigger : Trigger} (found : step.trigger? = some trigger)
    (engine : Engine) :
    ∃ fields, (take runSteps step engine).2 = (engine.run runSteps trigger fields).2 := by
  cases step with
  | event written =>
      cases read : Event.ofJson? written with
      | none => simp [Step.trigger?, read] at found
      | some event =>
          cases event with
          | actionTriggered action fields =>
              cases parsed : Trigger.ofJson action with
              | error fault => simp [Step.trigger?, read, parsed, Except.toOption] at found
              | ok parsedTrigger =>
                  have same : parsedTrigger = trigger := by
                    simpa [Step.trigger?, read, parsed, Except.toOption] using found
                  exact ⟨fields, by simp [take, read, handle, dispatch, parsed, same]⟩
          | backPressed =>
              have same : backAction = trigger := by
                simpa [Step.trigger?, read] using found
              exact ⟨[], by simp [take, read, handle, same]⟩
          | flowStateChanged flow state => simp [Step.trigger?, read] at found
          | logoutRequested => simp [Step.trigger?, read] at found
  | dispatch action fields =>
      cases parsed : Trigger.ofJson action with
      | error fault => simp [Step.trigger?, parsed, Except.toOption] at found
      | ok parsedTrigger =>
          have same : parsedTrigger = trigger := by
            simpa [Step.trigger?, parsed, Except.toOption] using found
          exact ⟨fields, by simp [take, dispatch, parsed, same]⟩
  | _ => cases found

theorem Waits.asked (waits : Waits runs engine) {step : Step} (runsOne : step.runs = true) :
    Tells (step :: runs) (engine.mark (.asked step)) := by
  have silent : (Happening.asked step).observable = false := by
    cases step with
    | library request => cases runsOne
    | _ => rfl
  refine ⟨?_, ?_, ?_⟩
  · simp only [Engine.mark, inProgress, runsOne, waits.tells.progress, if_true]
  · intro outer actionless
    exact waits.acted outer (actionless_cons.1 actionless).2
  · apply past_cons waits.tells.past
    intro observable
    rw [silent] at observable
    cases observable

/-- The run that a step ran is over when the step is answered, and the others wait on. -/
theorem Tells.answered {step : Step} (tells : Tells (step :: runs) engine)
    (idle : engine.phase = .idle) (runsOne : step.runs = true) (answer : Answer) :
    Waits runs (engine.mark (.answered step answer)) := by
  have progress : inProgress (engine.mark (.answered step answer)).history = runs := by
    simp only [Engine.mark, inProgress, runsOne, tells.progress, if_true, List.tail_cons]
  have ended : runEndedLast (engine.mark (.answered step answer)).history = true := by
    simp only [Engine.mark, runEndedLast, Happening.endsRun, runsOne, Bool.true_or]
  have acted : runs ≠ [] → ¬Actionless (engine.mark (.answered step answer)).history := by
    intro busy actionless
    exact tells.outer busy (actionless_cons.1 actionless).2
  refine ⟨⟨progress, ?_, ?_⟩, acted, iff_of_true idle (Or.inl ended), fun _ => idle⟩
  · intro outer
    exact acted (List.ne_nil_of_tail_ne_nil outer)
  · exact past_cons tells.past fun _ => ⟨fun _ => idle, fun _ => iff_of_true idle ended⟩

theorem takeObserved_waits (sound : KeepsWaiting runSteps) (waits : Waits runs engine)
    (step : Step) : Waits runs (takeObserved runSteps step engine).2 := by
  cases runsOne : step.runs with
  | false => exact (waits_lasting sound runs).takeObserved waits runsOne
  | true =>
      -- The step adds a run to those in progress, and its answer takes that run away again.
      rw [takeObserved_snd]
      let asked : Engine := { engine.mark (.asked step) with calls := [] }
      let after := (take runSteps step asked).2
      let observed : Engine :=
        { after with
          calls := engine.calls
          observed := after.sent.length
          library := { after.library with reads := [] } }
      rcases Option.isSome_iff_exists.1 runsOne with ⟨trigger, found⟩
      have tells : Tells (step :: runs) asked := (waits.asked runsOne).of_eq rfl
      rcases take_run found asked with ⟨fields, taken⟩
      have ran := run_tells sound tells (List.cons_ne_nil step runs) trigger fields
      rw [← taken] at ran
      have told : Tells (step :: runs) observed := ran.1.of_eq rfl
      exact told.answered ran.2 runsOne (take runSteps step asked).1

theorem runAll_waits (sound : KeepsWaiting runSteps) : KeepsWaiting (runAll runSteps) := by
  intro steps engine runs waits
  induction steps generalizing engine with
  | nil => exact waits
  | cons step rest ih => exact ih _ (takeObserved_waits sound waits step)

theorem runToDepth_waits (depth : Nat) : KeepsWaiting (runToDepth depth) := by
  induction depth with
  | zero => exact fun _ _ _ waits => waits
  | succ depth ih => exact runAll_waits ih

theorem phase_of_start {library : Library} {ahead : List String} {entry : String}
    (started : (start library ahead entry).1 = .ok engine) : engine.phase = .idle := by
  rcases opened_of_start started with ⟨flow, screen, -, -, rfl⟩
  rfl

theorem waits_of_start {library : Library} {ahead : List String} {entry : String}
    (started : (start library ahead entry).1 = .ok engine) : Waits [] engine := by
  have idle := phase_of_start started
  rcases start_ok started with ⟨-, -, -, -, -, -, -, -, history, -⟩
  have actionless : Actionless engine.history := by
    rw [history]
    simp [Actionless, Happening.ofAction]
  refine ⟨⟨?_, fun outer => (outer rfl).elim, ?_⟩, fun busy => (busy rfl).elim,
    iff_of_true idle (Or.inr actionless), fun _ => idle⟩
  · rw [history]
    rfl
  · rw [history]
    apply past_cons
    · intro now before isSuffix
      cases List.suffix_nil.1 isSuffix
    · nofun

/-- At every observable moment of every history, the phase is idle if no run is in progress.
While one is, the phase is idle if and only if a run nested in it has ended and no action began
or ended since. -/
theorem idle_iff_ended {library : Library} {ahead : List String} {entry : String}
    (started : (start library ahead entry).1 = .ok engine) (registry : Registry Step)
    (replies : Table (List (Reply Step))) (steps : List Step) (depth : Nat)
    {now : Moment} {earlier : List Moment}
    (reached : now :: earlier <:+
      (runToDepth depth steps { engine with registry, replies }).2.history)
    (observable : now.happening.observable = true) : PhaseTells now earlier := by
  have hosted : Waits [] ({ engine with registry, replies } : Engine) :=
    (waits_of_start started).of_eq rfl rfl
  have waits := runToDepth_waits depth steps _ [] hosted
  exact waits.tells.past now earlier reached observable

/-! ### A run nested in a pending request -/

/-- Whether an engine was ever idle at an observable moment while a run was in progress. -/
def idleWhilePending : List Moment → Bool
  | [] => false
  | now :: earlier =>
    (now.happening.observable && !(inProgress (now :: earlier)).isEmpty &&
      now.seen.phase == .idle) || idleWhilePending earlier

theorem exists_of_idleWhilePending {history : List Moment}
    (pending : idleWhilePending history = true) :
    ∃ now earlier, now :: earlier <:+ history ∧ now.happening.observable = true ∧
      inProgress (now :: earlier) ≠ [] ∧ now.seen.phase = .idle := by
  induction history with
  | nil => cases pending
  | cons moment before ih =>
      rw [idleWhilePending, Bool.or_eq_true] at pending
      rcases pending with here | past
      · simp only [Bool.and_eq_true, Bool.not_eq_true', List.isEmpty_eq_false_iff,
          beq_iff_eq] at here
        exact ⟨moment, before, List.suffix_rfl, here.1.1, here.1.2, here.2⟩
      · rcases ih past with ⟨now, earlier, isSuffix, found⟩
        exact ⟨now, earlier, isSuffix.trans (List.suffix_cons moment before), found⟩

def sampleBack : Table (List (Reply Step)) :=
  [("/save",
    [{ outcome := .error "offline"
       during := some [.event (.obj [("type", .str "back_pressed")])] }])]

theorem sampleBack_pending :
    ∃ engine, (start sampleLibrary ["shop"] "home").1 = .ok engine ∧
      ∃ now earlier, now :: earlier <:+
          (runToDepth 2 sampleSteps
            { engine with registry := [], replies := sampleBack }).2.history ∧
        now.happening.observable = true ∧ inProgress (now :: earlier) ≠ [] ∧
        now.seen.phase = .idle := by
  have pending : ((start sampleLibrary ["shop"] "home").1.toOption.map fun engine =>
      idleWhilePending (runToDepth 2 sampleSteps
        { engine with registry := [], replies := sampleBack }).2.history) = some true := by
    decide +kernel
  cases started : (start sampleLibrary ["shop"] "home").1 with
  | error fault =>
      rw [started] at pending
      cases pending
  | ok engine =>
      rw [started] at pending
      exact ⟨engine, rfl, exists_of_idleWhilePending (Option.some.inj pending)⟩

/-- The user has gone back while the request is pending: the run that did so has ended. -/
theorem idle_iff_ended_of_nested :
    ∃ engine, (start sampleLibrary ["shop"] "home").1 = .ok engine ∧
      ∃ now earlier, now :: earlier <:+
          (runToDepth 2 sampleSteps
            { engine with registry := [], replies := sampleBack }).2.history ∧
        now.happening.observable = true ∧ PhaseTells now earlier ∧
        runEndedLast (now :: earlier) = true := by
  rcases sampleBack_pending with ⟨engine, started, now, earlier, reached, observable, busy, idle⟩
  have tells := idle_iff_ended started [] sampleBack sampleSteps 2 reached observable
  exact ⟨engine, started, now, earlier, reached, observable, tells, (tells.busy busy).1 idle⟩

/-- That an engine is idle does not tell that no run is in progress. -/
theorem idle_not_iff_free :
    ¬∀ (library : Library) (ahead : List String) (entry : String) (engine : Engine),
      (start library ahead entry).1 = .ok engine →
        ∀ (registry : Registry Step) (replies : Table (List (Reply Step))) (steps : List Step)
          (depth : Nat) (now : Moment) (earlier : List Moment),
          now :: earlier <:+
              (runToDepth depth steps { engine with registry, replies }).2.history →
            now.happening.observable = true →
              (now.seen.phase = .idle ↔ inProgress (now :: earlier) = []) := by
  intro claim
  rcases sampleBack_pending with ⟨engine, started, now, earlier, reached, observable, busy, idle⟩
  exact busy ((claim _ _ _ engine started [] sampleBack sampleSteps 2 now earlier reached
    observable).1 idle)

end Engine

end Storyboard
