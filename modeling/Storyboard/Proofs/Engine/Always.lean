import Storyboard.Proofs.Engine.History
/-!
# Throughout a history

A property that holds of an engine when it was started and that every move keeps holds at
every moment of the engine's history, while collaborators wait and nested steps are half
done as much as between steps.

Main result: `Always.runToDepth`.
-/

namespace Storyboard

namespace Engine

variable {allowed : Library.Step → Prop} {engine next : Engine} {P : Engine → Prop}

/-- A moment that shows an engine as it is. -/
structure Moment.Shows (moment : Moment) (engine : Engine) : Prop where
  seen : moment.seen = engine.snapshot
  truthful : moment.happening.Truthful engine

/-- An engine has a property and had it at every moment of its history. -/
structure Always (P : Engine → Prop) (engine : Engine) : Prop where
  now : P engine
  past : ∀ moment ∈ engine.history, ∃ shown, P shown ∧ moment.Shows shown

/-- A moment that a move adds to the history shows the engine before the move or after it. -/
theorem Move.shows (move : Move allowed engine next) {moment : Moment}
    (member : moment ∈ next.history) :
    moment ∈ engine.history ∨ moment.Shows engine ∨ moment.Shows next := by
  cases move with
  | marked truthful plain =>
      rcases List.mem_cons.1 member with rfl | old
      · exact Or.inr (Or.inl ⟨rfl, truthful⟩)
      · exact Or.inl old
  | restored runSteps found =>
      rw [takeObserved_restore runSteps found] at member ⊢
      rcases List.mem_cons.1 member with rfl | earlier
      · exact Or.inr (Or.inr ⟨rfl, trivial⟩)
      · rcases List.mem_cons.1 earlier with rfl | old
        · exact Or.inr (Or.inl ⟨rfl, trivial⟩)
        · exact Or.inl old
  | pushed frame data found has =>
      simp only [sendAll_eq] at member
      exact Or.inl member
  | stateSet updates =>
      simp only [sendAll_eq] at member
      exact Or.inl member
  | wentBack steps clearData =>
      simp only [sendAll_eq] at member
      exact Or.inl member
  | valueDropped key =>
      rw [dropValue_eq] at member
      split at member
      · exact Or.inl member
      · exact Or.inl member
  | _ => exact Or.inl member

namespace Always

theorem move (keeps : P engine → P next) (move : Move allowed engine next)
    (always : Always P engine) : Always P next := by
  refine ⟨keeps always.now, fun moment member => ?_⟩
  rcases move.shows member with old | before | after
  · exact always.past moment old
  · exact ⟨engine, always.now, before⟩
  · exact ⟨next, keeps always.now, after⟩

end Always

/-- An engine that was just started, from what the loads ahead came to. -/
def opened (root : Frame) (ahead : Library.Preload × Library) (sent : List Message) : Engine :=
  let warnings := ahead.1.failed.map preloadDiagnostic
  ({ root, context := .ofRoot root, library := ahead.2
     sent := .screenChanged root.flow root.screen :: (warnings.reverse ++ sent) } : Engine).mark
    .started

/-- What a start comes to. -/
theorem startWith_cases (loadAhead : Library → Library.Preload × Library) (sent : List Message)
    (library : Library) (entry : String) :
    (∃ fault, (library.load entry).1 = .error fault ∧
        startWith loadAhead sent library entry = ⟨.error fault, (library.load entry).2, sent⟩) ∨
      ∃ flow, (library.load entry).1 = .ok flow ∧
        ((flow.initialScreen? = none ∧ startWith loadAhead sent library entry =
            ⟨.error (.malformed (Flow.subject entry) "screens" "is empty"),
              (library.load entry).2, sent⟩) ∨
          ∃ screen, flow.initialScreen? = some screen ∧
            let ahead := loadAhead (library.load entry).2
            let engine := opened ⟨entry, screen⟩ ahead sent
            startWith loadAhead sent library entry = ⟨.ok engine, ahead.2, engine.sent⟩) := by
  unfold startWith
  rcases library.load entry with ⟨result, after⟩
  cases result with
  | error fault => exact Or.inl ⟨fault, rfl, rfl⟩
  | ok flow =>
      refine Or.inr ⟨flow, rfl, ?_⟩
      cases first : flow.initialScreen? with
      | none => exact Or.inl ⟨rfl, by simp only [first]⟩
      | some screen =>
          refine Or.inr ⟨screen, rfl, ?_⟩
          simp only [first, sendAll_eq]
          rfl

theorem opened_of_start {library : Library} {ahead : List String} {entry : String}
    (started : (start library ahead entry).1 = .ok engine) :
    ∃ flow screen, (library.load entry).1 = .ok flow ∧ flow.initialScreen? = some screen ∧
      engine = opened ⟨entry, screen⟩ ((library.load entry).2.preload ahead) [] := by
  rcases startWith_cases (·.preload ahead) [] library entry with
    ⟨fault, -, whole⟩ | ⟨flow, loaded, ⟨-, whole⟩ | ⟨screen, first, whole⟩⟩
  · rw [start, whole] at started
    cases started
  · rw [start, whole] at started
    cases started
  · rw [start, whole] at started
    cases started
    exact ⟨flow, screen, loaded, first, rfl⟩

/-- A started engine shows the first screen of its flow, with nothing else on the stack and
an empty session. The last message that it sent names that screen. -/
theorem start_ok {library : Library} {ahead : List String} {entry : String}
    (started : (start library ahead entry).1 = .ok engine) :
    ∃ flow screen, (library.load entry).1 = .ok flow ∧ flow.initialScreen? = some screen ∧
      engine.root = ⟨entry, screen⟩ ∧ engine.context = .ofRoot ⟨entry, screen⟩ ∧
      engine.library = ((library.load entry).2.preload ahead).2 ∧
      engine.backups = [] ∧ engine.history = [⟨.started, engine.snapshot⟩] ∧
      ∃ diagnostics, (∀ message ∈ diagnostics, ∃ level text, message = .diagnostic level text) ∧
        engine.sent = .screenChanged entry screen :: diagnostics := by
  rcases opened_of_start started with ⟨flow, screen, loaded, first, rfl⟩
  refine ⟨flow, screen, loaded, first, rfl, rfl, rfl, rfl, rfl, _, ?_, rfl⟩
  intro message member
  simp only [List.append_nil, List.mem_reverse, List.mem_map] at member
  obtain ⟨failure, -, rfl⟩ := member
  exact ⟨_, _, rfl⟩

/-- A library that stores two small flows. -/
def sampleLibrary : Library :=
  { sources := {}
    loader := .ofTable
      [("home.json", (Flow.toJson ⟨"home", [], [("start", .obj [])]⟩).compact),
        ("shop.json",
          (Flow.toJson ⟨"shop", [], [("items", .obj []), ("offers", .obj [])]⟩).compact)] }

theorem sampleLibrary_starts :
    ∃ engine, (start sampleLibrary ["shop"] "home").1 = .ok engine := by
  have succeeds : (start sampleLibrary ["shop"] "home").1.toOption.isSome = true := by
    decide +kernel
  cases started : (start sampleLibrary ["shop"] "home").1 with
  | ok engine => exact ⟨engine, rfl⟩
  | error fault =>
      rw [started] at succeeds
      cases succeeds

/-- The user sends a request and later goes back. -/
def sampleSteps : List Step :=
  [.dispatch (.obj [("action", .str "apiCall"), ("endpoint", .str "/save"),
    ("method", .str "POST")]) [],
    .event (.obj [("type", .str "back_pressed")])]

/-- While the request is pending, the user saves the context and goes to another flow. -/
def sampleReplies : Table (List (Reply Step)) :=
  [("/save",
    [{ outcome := .error "offline"
       during := some
        [.backup "before", .dispatch (.obj [("action", .str "navigateToFlow"),
          ("targetFlow", .str "shop"), ("targetScreen", .str "offers")]) []] }])]

/-- None of these steps is a request to the library, and none hands a script over. -/
theorem sampleSteps_obey (allowed : Library.Step → Prop) :
    ∀ step ∈ sampleSteps, step.Obeys allowed := by
  intro step member
  simp only [sampleSteps, List.mem_cons, List.not_mem_nil, or_false] at member
  rcases member with rfl | rfl
  · exact .intro nofun nofun
  · exact .intro nofun nofun

theorem sampleReplies_obey (allowed : Library.Step → Prop) (engine : Engine) :
    Obeys allowed { engine with registry := [], replies := sampleReplies } := by
  refine ⟨nofun, ?_⟩
  intro entry member reply among script during step taken
  simp only [sampleReplies, List.mem_singleton] at member
  subst member
  rw [List.mem_singleton] at among
  subst among
  cases during
  simp only [List.mem_cons, List.not_mem_nil, or_false] at taken
  rcases taken with rfl | rfl
  · exact .intro nofun nofun
  · exact .intro nofun nofun

/-- Whatever steps are taken on an engine, with whatever handlers and replies: what holds
before and is kept by every move holds afterwards. -/
theorem runToDepth_keeps (registry : Registry Step) (replies : Table (List (Reply Step)))
    (steps : List Step) (depth : Nat)
    (keeps : ∀ {engine next : Engine}, Move allowed engine next → P engine → P next)
    (hosts : Obeys allowed { engine with registry, replies })
    (obey : ∀ step ∈ steps, step.Obeys allowed) (holds : P engine) :
    P (runToDepth depth steps { engine with registry, replies }).2 := by
  have host : Move allowed engine { engine with registry, replies } :=
    .hosted registry replies fun _ => hosts
  exact (runToDepth_leads depth steps _ obey hosts).keep keeps (keeps host holds)

/-- What holds at the start of an engine and is kept by every move holds at every moment. -/
theorem Always.runToDepth {library : Library} {ahead : List String} {entry : String}
    (registry : Registry Step) (replies : Table (List (Reply Step))) (steps : List Step)
    (depth : Nat)
    (keeps : ∀ {engine next : Engine}, Move allowed engine next → P engine → P next)
    (started : (start library ahead entry).1 = .ok engine) (first : P engine)
    (hosts : Obeys allowed { engine with registry, replies })
    (obey : ∀ step ∈ steps, step.Obeys allowed) :
    Always P (runToDepth depth steps { engine with registry, replies }).2 := by
  obtain ⟨-, -, -, -, -, -, -, -, history, -⟩ := start_ok started
  have start : Always P engine := by
    refine ⟨first, fun moment member => ⟨engine, first, ?_⟩⟩
    rw [history, List.mem_singleton] at member
    subst member
    exact ⟨rfl, trivial⟩
  exact runToDepth_keeps registry replies steps depth
    (fun move always => always.move (keeps move) move) hosts obey start

end Engine

end Storyboard
