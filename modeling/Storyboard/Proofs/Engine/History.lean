import Storyboard.Proofs.Engine.Move
import Storyboard.Proofs.Engine.Wait
import Storyboard.Proofs.Library
import Storyboard.Proofs.Run.Sequence
/-!
# Histories are moves

Every operation on an engine comes to a sequence of moves: actions and their runs, steps,
and the steps that collaborators take, nested to any depth. So what every move keeps, every
history keeps.

Main results: `run_leads` for a run and `runToDepth_leads` for a history.
-/

namespace Storyboard

namespace Engine

variable {allowed : Library.Step → Prop} {engine next last : Engine} {runSteps : Runner}

/-- An engine comes to another by moves, provided that its collaborators obey. -/
def Leads (allowed : Library.Step → Prop) (engine next : Engine) : Prop :=
  engine.Obeys allowed → Moves allowed engine next

/-- A collaborator's own steps come to moves. -/
def MakesMoves (allowed : Library.Step → Prop) (runSteps : Runner) : Prop :=
  ∀ (steps : List Step) (engine : Engine), (∀ step ∈ steps, step.Obeys allowed) →
    Leads allowed engine (runSteps steps engine).2

namespace Leads

theorem refl (engine : Engine) : Leads allowed engine engine := fun _ => .refl

theorem of_move (move : Move allowed engine next) : Leads allowed engine next :=
  fun _ => .single move

theorem trans (first : Leads allowed engine next) (second : Leads allowed next last) :
    Leads allowed engine last :=
  fun obeys => (first obeys).trans (second ((first obeys).obeys obeys))

theorem enter (engine : Engine) (phase : Phase) : Leads allowed engine (engine.enter phase) :=
  of_move (.kept (phase :: engine.phases) engine.calls engine.observed engine.listening
    engine.library.reads)

theorem calls (engine : Engine) (calls : List (Call Entry)) :
    Leads allowed engine { engine with calls } :=
  of_move (.kept engine.phases calls engine.observed engine.listening engine.library.reads)

theorem mark (happening : Happening) (truthful : happening.Truthful engine)
    (plain : happening.restores = false) : Leads allowed engine (engine.mark happening) :=
  of_move (.marked truthful plain)

/-- Diagnostics may be sent at any time. -/
theorem diagnose (engine : Engine) {messages : List Message}
    (diagnostic : ∀ message ∈ messages, ∃ level text, message = .diagnostic level text) :
    Leads allowed engine (engine.sendAll messages) := by
  induction messages generalizing engine with
  | nil => exact refl engine
  | cons message rest ih =>
      obtain ⟨level, text, rfl⟩ := diagnostic _ List.mem_cons_self
      rw [sendAll_cons]
      refine (of_move (.diagnosed level text)).trans (ih _ fun message member => ?_)
      exact diagnostic message (List.mem_cons_of_mem _ member)

theorem load (engine : Engine) (flow : String) : Leads allowed engine (engine.load flow).2 :=
  (mark (.loading flow) trivial rfl).trans (of_move (.loaded flow))

end Leads

/-! ### Actions -/

theorem load_eq (engine : Engine) (flow : String) :
    engine.load flow =
      ((engine.library.load flow).1,
        { engine.mark (.loading flow) with library := (engine.library.load flow).2 }) := rfl

/-- What showing another screen of the current flow comes to, once the flow was loaded. -/
theorem navigate_cases (engine : Engine) (screen : String) :
    (∃ flow, (engine.library.load engine.context.current.flow).1 = .ok flow ∧
      flow.hasScreen screen = true ∧
      ∃ moved, moved = { (engine.load engine.context.current.flow).2 with
          context := engine.context.replaceScreen screen } ∧
        engine.navigate screen = ({ outcome := .ok none, messages := [moved.location] }, moved)) ∨
    ∃ fault, engine.navigate screen =
      ({ outcome := .error fault }, (engine.load engine.context.current.flow).2) := by
  cases loaded : (engine.library.load engine.context.current.flow).1 with
  | error fault => exact Or.inr ⟨fault, by simp only [navigate, load_eq, loaded]⟩
  | ok flow =>
      cases has : flow.hasScreen screen with
      | false =>
          refine Or.inr ⟨.unknownScreen engine.context.current.flow screen, ?_⟩
          simp [navigate, load_eq, loaded, has]
      | true =>
          refine Or.inl ⟨flow, rfl, has, _, rfl, ?_⟩
          simp [navigate, load_eq, loaded, has, mark]

theorem navigateToFlow_cases (engine : Engine) (flow screen : String) (data : Option Fields) :
    (∃ loaded, (engine.library.load flow).1 = .ok loaded ∧ loaded.hasScreen screen = true ∧
      ∃ moved, moved = { (engine.load flow).2 with
          context := (engine.context.push ⟨flow, screen⟩ data).2 } ∧
        engine.navigateToFlow flow screen data =
          ({ outcome := .ok none,
             messages := updateNotice (engine.context.push ⟨flow, screen⟩ data).1 ++
              [moved.location] }, moved)) ∨
    ∃ fault, engine.navigateToFlow flow screen data =
      ({ outcome := .error fault }, (engine.load flow).2) := by
  cases found : (engine.library.load flow).1 with
  | error fault => exact Or.inr ⟨fault, by simp only [navigateToFlow, load_eq, found]⟩
  | ok loaded =>
      cases has : loaded.hasScreen screen with
      | false =>
          refine Or.inr ⟨.unknownScreen flow screen, ?_⟩
          simp [navigateToFlow, load_eq, found, has]
      | true =>
          refine Or.inl ⟨loaded, rfl, has, _, rfl, ?_⟩
          simp [navigateToFlow, load_eq, found, has, mark]

theorem navigate_leads (engine : Engine) (screen : String) :
    Leads allowed engine
      ((engine.navigate screen).2.sendAll (engine.navigate screen).1.messages) := by
  have loads : Leads allowed engine (engine.load engine.context.current.flow).2 :=
    .load engine engine.context.current.flow
  rcases navigate_cases engine screen with
    ⟨flow, loaded, has, moved, rfl, navigated⟩ | ⟨fault, navigated⟩
  · rw [navigated]
    exact loads.trans (.of_move (.navigated (Library.kept_of_load loaded) has))
  · rw [navigated]
    exact loads

theorem navigateToFlow_leads (engine : Engine) (flow screen : String) (data : Option Fields) :
    Leads allowed engine
      ((engine.navigateToFlow flow screen data).2.sendAll
        (engine.navigateToFlow flow screen data).1.messages) := by
  have loads : Leads allowed engine (engine.load flow).2 := .load engine flow
  rcases navigateToFlow_cases engine flow screen data with
    ⟨found, loaded, has, moved, rfl, navigated⟩ | ⟨fault, navigated⟩
  · rw [navigated]
    exact loads.trans (.of_move
      (.pushed ⟨flow, screen⟩ data (Library.kept_of_load loaded) has))
  · rw [navigated]
    exact loads

theorem takeReply_obeys (obeys : engine.Obeys allowed) (endpoint : String) :
    ScriptObeys allowed (engine.takeReply endpoint).1.during := by
  rcases takeReply_cases engine endpoint with ⟨reply, -⟩ | ⟨replies, member, taken, -⟩
  · rw [reply]
    intro steps isSome
    cases isSome
  · exact obeys.replies _ member _ taken

theorem takeReply_leads (engine : Engine) (endpoint : String) :
    Leads allowed engine (engine.takeReply endpoint).2 := by
  rcases takeReply_cases engine endpoint with
    ⟨-, same⟩ | ⟨replies, member, -, rest, fewer, same | changed⟩
  · rw [same]
    exact Leads.refl engine
  · rw [same]
    exact Leads.refl engine
  · rw [changed]
    refine .of_move (.hosted engine.registry _ fun obeys => ⟨obeys.handlers, ?_⟩)
    intro entry stored reply among
    rcases Table.mem_put stored with rfl | old
    · exact obeys.replies _ member reply (fewer reply among)
    · exact obeys.replies entry old reply among

/-- While an engine waits, only the collaborator's steps make moves. -/
theorem Wait.left_leads (sound : MakesMoves allowed runSteps) {wait : Wait}
    (script : ScriptObeys allowed wait.during) :
    Leads allowed wait.engine (wait.left runSteps) := by
  unfold Wait.left
  cases during : wait.during with
  | none => exact .refl wait.engine
  | some steps => exact sound steps wait.engine (script steps during)

theorem sendRequest_leads (sound : MakesMoves allowed runSteps) (engine : Engine)
    (request : Http.Request) :
    Leads allowed engine (engine.sendRequest runSteps request).2 := by
  have marks : Leads allowed engine (engine.mark (.requesting request)) :=
    .mark (.requesting request) trivial rfl
  have pends : Leads allowed engine (engine.waitForReply request).engine :=
    marks.trans (takeReply_leads _ request.endpoint)
  intro obeys
  have script : ScriptObeys allowed (engine.waitForReply request).during :=
    takeReply_obeys ((marks obeys).obeys obeys) request.endpoint
  rcases sendRequest_leaves runSteps engine request with ⟨calls, leaves⟩
  rw [leaves]
  exact ((pends.trans (Wait.left_leads sound script)).trans (.calls _ calls)) obeys

theorem callHandler_leads (sound : MakesMoves allowed runSteps) (engine : Engine)
    (name : String) (params : Option Fields) :
    Leads allowed engine (engine.callHandler runSteps name params).2 := by
  have pends : Leads allowed engine (engine.waitForHandler name params).engine := by
    rcases waitForHandler_engine engine name params with same | marked
    · rw [same]
      exact .refl engine
    · rw [marked]
      exact .mark (.calling name params) trivial rfl
  intro obeys
  have script : ScriptObeys allowed (engine.waitForHandler name params).during := by
    unfold waitForHandler
    cases found : engine.registry.get? name with
    | none => exact nofun
    | some handler => exact obeys.handlers _ (Table.mem_of_get? found)
  rcases callHandler_leaves runSteps engine name params with ⟨_, leaves⟩
  rw [leaves]
  exact ((pends.trans (Wait.left_leads sound script)).trans (.calls _ _)) obeys

theorem perform_leads (sound : MakesMoves allowed runSteps) (action : Action)
    (engine : Engine) :
    Leads allowed engine
      ((perform runSteps action engine).2.sendAll
        (perform runSteps action engine).1.messages) := by
  cases action with
  | navigate screen => exact navigate_leads engine screen
  | navigateToFlow flow screen data => exact navigateToFlow_leads engine flow screen data
  | setState updates => exact .of_move (.stateSet updates)
  | goBack steps clearData => exact .of_move (.wentBack steps clearData)
  | apiCall method endpoint headers body =>
      rw [perform, sendRequest_messages]
      exact sendRequest_leads sound engine _
  | custom handler params => exact callHandler_leads sound engine handler params
  | executeCallback name params => exact callHandler_leads sound engine name params

theorem diagnostics_diagnostic (tag : String) (handled : Bool) (outcome : Outcome) :
    ∀ message ∈ diagnostics tag handled outcome,
      ∃ level text, message = .diagnostic level text := by
  intro message member
  cases outcome with
  | ok output => cases member
  | error fault =>
      simp only [diagnostics, diagnostic?, Option.mem_toList] at member
      split at member
      · exact ⟨_, _, (Option.some.inj member).symm⟩
      · split at member
        · cases member
        · exact ⟨_, _, (Option.some.inj member).symm⟩

theorem execute_leads (sound : MakesMoves allowed runSteps) (place : List Edge)
    (scope : Scope) (action : Action) (handled : Bool) (engine : Engine) :
    Leads allowed engine (execute runSteps place scope action handled engine).2 := by
  rw [execute_eq]
  generalize action.resolve (engine.context.scopes scope.fields scope.response scope.error) =
    resolved
  let ready := (engine.enter (.executing resolved.tag scope.depth)).mark (.executing resolved)
  let performed := perform runSteps resolved ready
  have readies : Leads allowed engine ready :=
    (Leads.enter _ _).trans (.mark (.executing resolved) trivial rfl)
  have performs : Leads allowed engine (performed.2.sendAll performed.1.messages) :=
    readies.trans (perform_leads sound resolved ready)
  have settles := performs.trans (.enter _ (settled resolved.tag performed.1.outcome))
  have tells := settles.trans
    (.diagnose _ (diagnostics_diagnostic resolved.tag handled performed.1.outcome))
  exact tells.trans (.mark (.executed resolved performed.1.outcome) trivial rfl)

/-! ### Runs -/

theorem run_leads (sound : MakesMoves allowed runSteps) (trigger : Trigger) (fields : Fields)
    (engine : Engine) : Leads allowed engine (engine.run runSteps trigger fields).2 := by
  have sequence := trigger.run_sequence runSteps [] { fields } engine
  have executes := sequence.keep (P := Leads allowed engine)
    (fun place scope action handled between leads =>
      leads.trans (execute_leads sound place scope action handled between)) (.refl engine)
  exact executes.trans (.enter _ .idle)

/-! ### Steps -/

theorem dispatch_leads (sound : MakesMoves allowed runSteps) (action : Json) (fields : Fields)
    (engine : Engine) : Leads allowed engine (engine.dispatch runSteps action fields).2 := by
  unfold dispatch
  cases Trigger.ofJson action with
  | error fault => exact .of_move (.diagnosed .error fault.message)
  | ok trigger => exact run_leads sound trigger fields engine

theorem handle_leads (sound : MakesMoves allowed runSteps) (event : Event) (engine : Engine) :
    Leads allowed engine (engine.handle runSteps event).2 := by
  cases event with
  | actionTriggered action fields => exact dispatch_leads sound action fields engine
  | backPressed => exact run_leads sound backAction [] engine
  | flowStateChanged flow state => exact .of_move (.flowStateSet flow state)
  | logoutRequested => exact .of_move .loggedOut

/-- The screen that is shown: it depends on the context and on what a load gives. -/
theorem currentScreen_fst (engine : Engine) (fields : Fields) :
    (engine.currentScreen fields).1 =
      match (engine.library.load engine.context.current.flow).1 with
      | .error fault => .error fault
      | .ok flow =>
        match flow.screen? engine.context.current.screen with
        | none =>
          .error (.unknownScreen engine.context.current.flow engine.context.current.screen)
        | some screen =>
          .ok ⟨engine.context.current.flow, engine.context.current.screen,
            screen.resolveScreen (engine.context.scopes fields none none)⟩ := by
  simp only [currentScreen, load_eq]
  cases (engine.library.load engine.context.current.flow).1 with
  | error fault => rfl
  | ok flow =>
      cases found : flow.screen? engine.context.current.screen with
      | none => simp only [found]
      | some screen => simp only [found]; rfl

theorem currentScreen_snd (engine : Engine) (fields : Fields) :
    (engine.currentScreen fields).2 = (engine.load engine.context.current.flow).2 := by
  simp only [currentScreen, load_eq]
  cases (engine.library.load engine.context.current.flow).1 with
  | error fault => rfl
  | ok flow => cases found : flow.screen? engine.context.current.screen <;> simp only [found]

theorem currentScreen_again (engine : Engine) (fields : Fields) :
    ((engine.currentScreen fields).2.currentScreen fields).1 =
      (engine.currentScreen fields).1 := by
  have again := Library.load_load engine.library engine.context.current.flow
  rw [currentScreen_snd, currentScreen_fst, currentScreen_fst]
  change (match ((engine.library.load engine.context.current.flow).2.load
    engine.context.current.flow).1 with | .error fault => _ | .ok flow => _) = _
  rw [again]
  rfl

theorem askRegistry_leads (sound : MakesMoves allowed runSteps)
    {request : Registry.Request Step}
    (obeys : (Step.registry request).Obeys allowed) (engine : Engine) :
    Leads allowed engine (engine.askRegistry runSteps request).2 := by
  obtain ⟨-, scripts⟩ := obeys
  cases request with
  | register name handler =>
      refine .of_move (.hosted _ engine.replies fun hosted => ⟨?_, hosted.replies⟩)
      intro entry stored
      rcases Table.mem_put stored with rfl | old
      · intro steps during
        exact scripts steps (Option.mem_toList.2 during)
      · exact hosted.handlers entry old
  | unregister name =>
      refine .of_move (.hosted _ engine.replies fun hosted => ⟨?_, hosted.replies⟩)
      intro entry stored
      exact hosted.handlers entry (Table.mem_of_mem_erase stored)
  | clear =>
      refine .of_move (.hosted [] engine.replies fun hosted => ⟨?_, hosted.replies⟩)
      intro entry stored
      cases stored
  | execute name params => exact callHandler_leads sound engine name params
  | isRegistered name => exact .refl engine
  | names => exact .refl engine

/-- A step comes to moves. Restoring a saved context is left out: with its request and its
answer, it is a move of its own. -/
theorem take_leads (sound : MakesMoves allowed runSteps) {step : Step}
    (obeys : step.Obeys allowed) (engine : Engine)
    (fresh : ∀ name, step = .restore name → engine.backups.get? name = none) :
    Leads allowed engine (take runSteps step engine).2 := by
  cases step with
  | event value =>
      unfold take
      cases found : Event.ofJson? value with
      | none => simpa only [found] using Leads.refl engine
      | some event => simpa only [found] using handle_leads sound event engine
  | dispatch action fields => exact dispatch_leads sound action fields engine
  | screen fields =>
      change Leads allowed engine (engine.currentScreen fields).2
      rw [currentScreen_snd]
      exact .load engine _
  | set key value => exact .of_move (.valueSet key value)
  | drop key => exact .of_move (.valueDropped key)
  | logout => exact .of_move .loggedOut
  | backup name => exact .of_move (.backedUp name)
  | restore name =>
      simpa only [take, fresh name rfl] using Leads.refl engine
  | setReplies endpoint replies =>
      obtain ⟨-, scripts⟩ := obeys
      refine .of_move (.hosted engine.registry _ fun hosted => ⟨hosted.handlers, ?_⟩)
      intro entry stored reply among
      rcases Table.mem_put stored with rfl | old
      · intro steps during
        exact scripts steps (List.mem_filterMap.2 ⟨reply, among, during⟩)
      · exact hosted.replies entry old reply among
  | close =>
      exact .of_move (.kept engine.phases engine.calls engine.observed false
        engine.library.reads)
  | library request =>
      obtain ⟨allows, -⟩ := obeys
      exact .of_move (.libraryAsked (allows request rfl))
  | registry request => exact askRegistry_leads sound obeys engine
  | value key => exact .refl engine
  | flowState flow => exact .refl engine
  | resolve template fields => exact .refl engine
  | resolveValue value fields response error => exact .refl engine
  | unknown => exact .refl engine

/-- Only asking for the screen is answered with a screen, the one that is shown from then
on. -/
theorem take_screen {step : Step} {result : Except Fault Screen}
    (answered : (take runSteps step engine).1 = .screen result) :
    ∃ fields, result = ((take runSteps step engine).2.currentScreen fields).1 := by
  cases step with
  | screen fields =>
      refine ⟨fields, ?_⟩
      have shown : (engine.currentScreen fields).1 = result := by
        simpa only [take, Answer.screen.injEq] using answered
      rw [← shown]
      exact (currentScreen_again engine fields).symm
  | event value =>
      unfold take at answered
      cases found : Event.ofJson? value <;> simp [found] at answered
  | restore name =>
      unfold take at answered
      cases found : engine.backups.get? name <;> simp [found] at answered
  | _ => simp [take] at answered

/-- Nothing is restored if there is nothing to restore. -/
theorem restores_take {step : Step}
    (fresh : ∀ name, step = .restore name → engine.backups.get? name = none) :
    (Happening.answered step (take runSteps step engine).1).restores = false := by
  cases step with
  | restore name => simp only [take, fresh name rfl, Happening.restores]
  | _ => rfl

/-- What an observation changes does not show on the screen. -/
theorem currentScreen_bookkeeping (engine : Engine) (calls : List (Call Entry))
    (observed : Nat) (reads : List String) (fields : Fields) :
    (({ engine with
        calls, observed, library := { engine.library with reads } } : Engine).currentScreen
      fields).1 = (engine.currentScreen fields).1 := by
  rw [currentScreen_fst, currentScreen_fst, Library.load_fst, Library.load_fst]

/-- The stages of taking a step: it is announced, taken, observed and answered. -/
theorem takeObserved_snd (runSteps : Runner) (step : Step) (engine : Engine) :
    (takeObserved runSteps step engine).2 =
      let (answer, after) :=
        take runSteps step { engine.mark (.asked step) with calls := [] }
      ({ after with
        calls := engine.calls
        observed := after.sent.length
        library := { after.library with reads := [] } } : Engine).mark
          (.answered step answer) := rfl

theorem takeObserved_leads (sound : MakesMoves allowed runSteps) {step : Step}
    (obeys : step.Obeys allowed) (engine : Engine) :
    Leads allowed engine (takeObserved runSteps step engine).2 := by
  by_cases restores : ∃ name backup, step = .restore name ∧
      engine.backups.get? name = some backup
  · obtain ⟨name, backup, rfl, found⟩ := restores
    exact .of_move (.restored runSteps found)
  · rw [takeObserved_snd]
    let asked : Engine := { engine.mark (.asked step) with calls := [] }
    have asks : Leads allowed engine asked :=
      (Leads.mark (.asked step) trivial rfl).trans
        (.of_move (.kept engine.phases [] engine.observed engine.listening
          engine.library.reads))
    have fresh : ∀ name, step = .restore name → asked.backups.get? name = none := by
      intro name same
      cases found : asked.backups.get? name with
      | none => rfl
      | some backup => exact (restores ⟨name, backup, same, found⟩).elim
    have observes := (asks.trans (take_leads sound obeys asked fresh)).trans
      (.of_move (.kept (take runSteps step asked).2.phases engine.calls
        (take runSteps step asked).2.sent.length (take runSteps step asked).2.listening []))
    refine observes.trans (.mark (.answered step (take runSteps step asked).1) ?_
      (restores_take fresh))
    -- The answer is the one of a moment ago; observing did not change the screen.
    cases answered : (take runSteps step asked).1 with
    | screen result =>
        obtain ⟨fields, shown⟩ := take_screen answered
        exact ⟨fields, shown.trans (currentScreen_bookkeeping _ _ _ _ _).symm⟩
    | _ => exact trivial

theorem runAll_leads (sound : MakesMoves allowed runSteps) :
    MakesMoves allowed (runAll runSteps) := by
  intro steps engine obeys
  induction steps generalizing engine with
  | nil => exact .refl engine
  | cons step rest ih =>
      have first := takeObserved_leads sound (obeys step List.mem_cons_self) engine
      have following := ih (takeObserved runSteps step engine).2 fun other member =>
        obeys other (List.mem_cons_of_mem _ member)
      exact first.trans following

/-- Histories come to moves, to whatever depth collaborators take steps. -/
theorem runToDepth_leads (depth : Nat) : MakesMoves allowed (runToDepth depth) := by
  induction depth with
  | zero => exact fun _ engine _ => .refl engine
  | succ depth ih => exact runAll_leads ih

end Engine

end Storyboard
