import Storyboard.Proofs.Engine.Always
import Storyboard.Proofs.Run.Correspondence
/-!
# Lists of actions

Running two lists one after the other comes to running the one that they form together: nothing
but the engine itself is handed from one item to the next. And an action that puts nothing out
hands nothing to its continuation for success either, so that continuation might as well follow
it in a list; only the depth at which it runs tells the difference.

Main results: `run_composes` and `onSuccess_follows`.
-/

namespace Storyboard

open Engine

namespace Engine

/-! ### Places -/

def Execution.below (place : List Edge) (execution : Execution) : Execution :=
  { execution with place := execution.place ++ place }

/-- A run of a tree that stands at a place of a larger one. -/
def Run.below (place : List Edge) (run : Run) : Run :=
  { outcome := run.outcome
    executed := run.executed.map (.below place)
    started := run.started.map (· ++ place)
    returned := run.returned.map fun entry => (entry.1 ++ place, entry.2) }

theorem Run.after_below (later earlier : Run) (place : List Edge) :
    (later.after earlier).below place = (later.below place).after (earlier.below place) := by
  simp [Run.after, Run.below]

theorem Run.returnedAt_below (run : Run) (way place : List Edge) :
    (run.returnedAt way).below place = (run.below place).returnedAt (way ++ place) := by
  simp [Run.returnedAt, Run.below]

/-- Trees are run the same wherever they stand. -/
theorem treeCases_moved (runSteps : Runner) :
    TreeCases
      (fun descriptor => ∀ way place scope engine,
        descriptor.run runSteps (way ++ place) scope engine =
          ((descriptor.run runSteps way scope engine).1.below place,
            (descriptor.run runSteps way scope engine).2))
      (fun trigger => ∀ way place scope engine,
        trigger.run runSteps (way ++ place) scope engine =
          ((trigger.run runSteps way scope engine).1.below place,
            (trigger.run runSteps way scope engine).2))
      (fun descriptors => ∀ way place scope index last engine,
        Descriptor.runList runSteps (way ++ place) scope index last descriptors engine =
          ((Descriptor.runList runSteps way scope index last descriptors engine).1.below place,
            (Descriptor.runList runSteps way scope index last descriptors engine).2)) where
  descriptor descriptor runs way place scope engine := by
    rcases executes : execute runSteps way scope descriptor.action descriptor.onError.isSome
      engine with ⟨execution, executed⟩
    have moved : execute runSteps (way ++ place) scope descriptor.action
        descriptor.onError.isSome engine = (execution.below place, executed) := by
      rw [execute_eq] at executes ⊢
      cases executes
      rfl
    cases goesOn : descriptor.next? (Edge.after execution.outcome) with
    | none =>
        rw [Descriptor.run_of_next?_none executes goesOn,
          Descriptor.run_of_next?_none moved goesOn, Run.returnedAt_below]
        rfl
    | some next =>
        have below := runs _ next goesOn (Edge.after execution.outcome :: way) place
          (scope.after execution.outcome) executed
        rw [Descriptor.run_of_next?_some executes goesOn rfl,
          Descriptor.run_of_next?_some moved goesOn below, Run.returnedAt_below, Run.after_below]
        rfl
  single descriptor runs way place scope engine := by
    rw [Trigger.run_single, Trigger.run_single, runs]
    rfl
  chain descriptors runs way place scope engine := by
    rw [Trigger.run_chain, Trigger.run_chain, runs]
    rfl
  nil way place scope index last engine := by
    rw [Descriptor.runList, Descriptor.runList]
    rfl
  cons descriptor rest runs goesOn way place scope index last engine := by
    have first := runs (.item index :: way) place scope engine
    rw [List.cons_append] at first
    have outcome := congrArg (fun result => result.1.outcome) first
    cases returns :
      (descriptor.run runSteps (.item index :: way) scope engine).1.outcome with
    | ok output =>
        rw [Descriptor.runList_of_ok returns, Descriptor.runList_of_ok (outcome.trans returns),
          first]
        dsimp only
        rw [goesOn, Run.after_below]
    | error fault =>
        rw [Descriptor.runList_of_error returns,
          Descriptor.runList_of_error (outcome.trans returns), first]

end Engine

/-! ### Lists -/

theorem Descriptor.runList_singleton (runSteps : Runner) (place : List Edge) (scope : Scope)
    (index : Nat) (last : Option Json) (descriptor : Descriptor) (engine : Engine) :
    Descriptor.runList runSteps place scope index last [descriptor] engine =
      descriptor.run runSteps (.item index :: place) scope engine := by
  cases returns : (descriptor.run runSteps (.item index :: place) scope engine).1.outcome with
  | ok output =>
      rw [Descriptor.runList_of_ok returns]
      simp only [Descriptor.runList, Run.after, List.append_nil, ← returns]
  | error fault => rw [Descriptor.runList_of_error returns]

section Append

variable {runSteps : Runner} {place : List Edge} {scope : Scope} {index : Nat}
  {last : Option Json} {descriptors : List Descriptor} (following : List Descriptor)
  {engine : Engine}

/-- Nothing follows a list that failed. -/
theorem Descriptor.runList_append_of_error {fault : Fault}
    (fails : (Descriptor.runList runSteps place scope index last descriptors engine).1.outcome =
      .error fault) :
    Descriptor.runList runSteps place scope index last (descriptors ++ following) engine =
      Descriptor.runList runSteps place scope index last descriptors engine := by
  induction descriptors generalizing index last engine with
  | nil =>
      rw [Descriptor.runList] at fails
      cases fails
  | cons descriptor rest ih =>
      rw [List.cons_append]
      cases first : (descriptor.run runSteps (.item index :: place) scope engine).1.outcome with
      | error fault =>
          rw [Descriptor.runList_of_error first, Descriptor.runList_of_error first]
      | ok gave =>
          rw [Descriptor.runList_of_ok first] at fails ⊢
          rw [Descriptor.runList_of_ok first]
          dsimp only at fails ⊢
          rw [ih fails]

/-- A list goes on where the first part of it ended. -/
theorem Descriptor.runList_append_of_ok {output : Option Json}
    (returns : (Descriptor.runList runSteps place scope index last descriptors engine).1.outcome =
      .ok output) :
    Descriptor.runList runSteps place scope index last (descriptors ++ following) engine =
      let (run, next) := Descriptor.runList runSteps place scope index last descriptors engine
      let (later, ended) := Descriptor.runList runSteps place scope (index + descriptors.length)
        output following next
      (later.after run, ended) := by
  induction descriptors generalizing index last engine with
  | nil =>
      rw [Descriptor.runList] at returns
      cases returns
      rfl
  | cons descriptor rest ih =>
      rw [List.cons_append]
      cases first : (descriptor.run runSteps (.item index :: place) scope engine).1.outcome with
      | error fault =>
          rw [Descriptor.runList_of_error first] at returns
          cases first.symm.trans returns
      | ok gave =>
          rw [Descriptor.runList_of_ok first] at returns ⊢
          rw [Descriptor.runList_of_ok first]
          dsimp only at returns ⊢
          rw [ih returns, List.length_cons, Nat.add_right_comm, Nat.add_assoc index]
          simp only [Run.after, List.append_assoc]

end Append

namespace Engine

/-! ### One list after the other -/

/-- An item of a list, and the item so many places later. -/
def Later (count : Nat) (place other : List Edge) : Prop :=
  ∃ way index, place = way ++ [.item index] ∧ other = way ++ [.item (count + index)]

theorem Later.grows {count : Nat} : Retelling.Grows (Later count) := by
  rintro _ _ edge ⟨way, index, rfl, rfl⟩
  exact ⟨edge :: way, index, rfl, rfl⟩

theorem Later.item (count item : Nat) :
    Later count [.item (0 + item)] [.item (0 + count + item)] :=
  ⟨[], item, by rw [Nat.zero_add]; rfl, by rw [Nat.zero_add]; rfl⟩

/-- What is promised of a list that is run as a whole and in two parts, the second of which is
not empty. -/
structure Composes (runSteps : Runner) (descriptors : List Descriptor) (next : Descriptor)
    (rest : List Descriptor) (fields : Fields) (engine : Engine) : Prop where
  aborts : ∀ fault,
    (engine.run runSteps (.chain descriptors) fields).1.outcome = .error fault →
      engine.run runSteps (.chain (descriptors ++ next :: rest)) fields =
        engine.run runSteps (.chain descriptors) fields
  goesOn : ∀ output,
    (engine.run runSteps (.chain descriptors) fields).1.outcome = .ok output →
      let (whole, last) := engine.run runSteps (.chain (descriptors ++ next :: rest)) fields
      let (first, between) := engine.run runSteps (.chain descriptors) fields
      let (second, ended) := between.run runSteps (.chain (next :: rest)) fields
      whole.outcome = second.outcome ∧
        last = { ended with phases := last.phases } ∧ last.phase = ended.phase ∧
        active last.phases = active ended.phases ∧
        ∃ later, whole.executed = first.executed ++ later ∧
          List.Forall₂ (fun execution moved =>
            Later descriptors.length execution.place moved.place ∧
              moved = { execution with place := moved.place }) second.executed later
  empty : engine.run runSteps (.chain []) fields =
    (⟨.ok none, [], [[]], []⟩, engine.enter .idle)
  single : ∀ descriptor,
    let (alone, last) := engine.run runSteps (.single descriptor) fields
    let (listed, ended) := engine.run runSteps (.chain [descriptor]) fields
    listed.outcome = alone.outcome ∧ ended = last ∧
      listed.executed = alone.executed.map (.below [.item 0])

theorem run_chain_eq (runSteps : Runner) (descriptors : List Descriptor) (fields : Fields)
    (engine : Engine) :
    engine.run runSteps (.chain descriptors) fields =
      let (run, last) := Descriptor.runList runSteps [] { fields } 0 none descriptors engine
      (run.startedAt [], last.enter .idle) := by
  rw [run, Trigger.run_chain]

/-- Two lists run one after the other do what the list does that they form. -/
theorem run_composes (depth : Nat) (descriptors : List Descriptor) (next : Descriptor)
    (rest : List Descriptor) (fields : Fields) (engine : Engine) :
    Composes (runToDepth depth) descriptors next rest fields engine := by
  refine ⟨?_, ?_, ?_, ?_⟩
  · intro fault fails
    rw [run_chain_eq] at fails ⊢
    rw [run_chain_eq, Descriptor.runList_append_of_error _ fails]
  · intro output returns
    rw [run_chain_eq] at returns
    simp only [run_chain_eq, Descriptor.runList_append_of_ok (next :: rest) returns]
    generalize Descriptor.runList (runToDepth depth) [] { fields } 0 none descriptors engine =
      first
    rcases first with ⟨run, between⟩
    -- Between the lists the engine is idle, but the second list brings its own phase at once.
    have ran := (Retelling.SameWork.of_idle between).runList
      (Retelling.runToDepth_keeps _ depth) Later.grows (Later.item descriptors.length)
      (.refl { fields }) none output next rest
    have last := ran.engine.toSameWork.enter (Retelling.exact.phase_refl .idle)
    exact ⟨ran.outcome, last.eq, rfl, last.phases, _, rfl,
      ran.executed.imp fun execution moved both => ⟨both.1, both.2.eq⟩⟩
  · rfl
  · intro descriptor
    have below := Descriptor.induction (treeCases_moved (runToDepth depth)) descriptor [] [.item 0]
      { fields } engine
    rw [List.nil_append] at below
    rw [run_chain_eq, Descriptor.runList_singleton, below, run, Trigger.run_single]
    exact ⟨rfl, rfl, rfl⟩

end Engine

/-! ### Continuations as items -/

/-- The action puts nothing out. -/
def Action.silent : Action → Bool
  | navigate .. | navigateToFlow .. | setState .. | goBack .. => true
  | apiCall .. | custom .. | executeCallback .. => false

theorem Action.silent_resolve (action : Action) (scopes : Scopes) :
    (action.resolve scopes).silent = action.silent := by
  cases action <;> rfl

namespace Engine

theorem perform_silent {runSteps : Runner} {action : Action} {engine : Engine}
    {output : Option Json} (silent : action.silent = true)
    (returns : (perform runSteps action engine).1.outcome = .ok output) : output = none := by
  cases action with
  | navigate screen =>
      rcases navigate_cases engine screen with ⟨_, -, -, _, -, navigated⟩ | ⟨fault, navigated⟩
      · rw [perform, navigated] at returns
        cases returns
        rfl
      · rw [perform, navigated] at returns
        cases returns
  | navigateToFlow flow screen data =>
      rcases navigateToFlow_cases engine flow screen data with
        ⟨_, -, -, _, -, navigated⟩ | ⟨fault, navigated⟩
      · rw [perform, navigated] at returns
        cases returns
        rfl
      · rw [perform, navigated] at returns
        cases returns
  | setState updates =>
      cases returns
      rfl
  | goBack steps clearData =>
      cases returns
      rfl
  | apiCall method endpoint headers body => cases silent
  | custom handler params => cases silent
  | executeCallback name params => cases silent

theorem execute_silent {runSteps : Runner} {place : List Edge} {scope : Scope} {action : Action}
    {handled : Bool} {engine next : Engine} {execution : Execution} {output : Option Json}
    (silent : action.silent = true)
    (executes : execute runSteps place scope action handled engine = (execution, next))
    (returns : execution.outcome = .ok output) : output = none := by
  rw [execute_eq] at executes
  cases executes
  exact perform_silent ((action.silent_resolve _).trans silent) returns

/-- The same number of continuations, or one fewer. -/
inductive Shallower : Nat → Nat → Prop where
  | same (depth : Nat) : Shallower depth depth
  | above (depth : Nat) : Shallower (depth + 1) depth

inductive ShallowerPhase : Phase → Phase → Prop where
  | same (phase : Phase) : ShallowerPhase phase phase
  | above (tag : String) (depth : Nat) :
      ShallowerPhase (.executing tag (depth + 1)) (.executing tag depth)

namespace Retelling

/-- Only the depth may be told differently. -/
def shallower : Retelling :=
  { exact with
    phase := ShallowerPhase
    phases := List.Forall₂ ShallowerPhase
    depth := Shallower
    phase_refl := .same
    phases_refl := fun _ => List.forall₂_same.2 fun phase _ => .same phase
    phases_cons := .cons
    depth_refl := .same
    depth_succ := fun shallower => by
      cases shallower with
      | same => exact .same _
      | above => exact .above _
    executing := fun acts shallower => by
      cases acts
      cases shallower with
      | same => exact .same _
      | above => exact .above _ _
    settled := fun acts _ => by
      cases acts
      exact .same _ }

variable {retelling : Retelling} {runSteps : Runner} {engine other : Engine}

/-- A trigger is run as the items of a list are that it might have been. -/
theorem SameEngine.runDescriptors (same : retelling.SameEngine engine other)
    (keeps : retelling.Keeps runSteps) (trigger : Trigger) (place otherPlace : List Edge)
    {scope otherScope : Scope} (scopes : retelling.SameScope scope otherScope) (index : Nat) :
    retelling.SameRun (fun _ _ => True) (trigger.run runSteps place scope engine)
      (Descriptor.runList runSteps otherPlace otherScope index none trigger.descriptors other) := by
  have tree := treeCases_sameRun keeps .anywhere
  cases trigger with
  | single descriptor =>
      have ran : retelling.SameRun (fun _ _ => True)
          (descriptor.run runSteps place scope engine)
          (descriptor.run runSteps (.item index :: otherPlace) otherScope other) :=
        Descriptor.induction tree descriptor descriptor (.refl retelling.action_refl descriptor)
          trivial scopes same.toSameWork
      rw [Trigger.run_single, Trigger.descriptors, Descriptor.runList_singleton]
      exact ⟨ran.outcome, ran.executed, ran.engine⟩
  | chain descriptors =>
      have ran : retelling.SameRun (fun _ _ => True)
          (Descriptor.runList runSteps place scope 0 none descriptors engine)
          (Descriptor.runList runSteps otherPlace otherScope index none descriptors other) :=
        Descriptor.listInduction tree descriptors descriptors
          (.refl retelling.action_refl descriptors) (fun _ => trivial) scopes none same
      rw [Trigger.run_chain]
      exact ⟨ran.outcome, ran.executed, ran.engine⟩

end Retelling

/-- What follows an action without output may follow it in a list. -/
theorem onSuccess_follows (depth : Nat) (place : List Edge) (scope : Scope) {action : Action}
    (silent : action.silent = true) (next : Trigger) (engine : Engine) :
    Retelling.shallower.SameRun (fun _ _ => True)
      ((Descriptor.mk action (some next) none).run (runToDepth depth) place scope engine)
      ((Trigger.chain (.mk action none none :: next.descriptors)).run (runToDepth depth) place
        scope engine) := by
  have keeps := Retelling.runToDepth_keeps Retelling.shallower depth
  have agree := (Retelling.SameEngine.refl engine).toSameWork.execute keeps place
    (.item 0 :: place) (.refl scope) (Retelling.shallower.action_refl action) false
  rcases executes : execute (runToDepth depth) place scope action false engine with
    ⟨execution, executed⟩
  rcases otherExecutes : execute (runToDepth depth) (.item 0 :: place) scope action false engine
    with ⟨otherExecution, otherExecuted⟩
  rw [executes, otherExecutes] at agree
  rcases agree with ⟨sameExecution, settled⟩
  have alone : (Descriptor.mk action none none).run (runToDepth depth) (.item 0 :: place) scope
      engine = ((Run.ofExecution otherExecution).returnedAt (.item 0 :: place), otherExecuted) := by
    apply Descriptor.run_of_next?_none otherExecutes
    cases otherExecution.outcome <;> rfl
  rw [Trigger.run_chain]
  cases outcome : execution.outcome with
  | error fault =>
      have fails := sameExecution.outcome.trans outcome
      rw [Descriptor.run_of_next?_none executes (by rw [outcome]; rfl),
        Descriptor.runList_of_error ((congrArg (·.1.outcome) alone).trans fails), alone]
      exact ⟨sameExecution.outcome, .cons ⟨trivial, sameExecution⟩ .nil, settled⟩
  | ok output =>
      have returns := sameExecution.outcome.trans outcome
      have nothing : output = none := execute_silent silent executes outcome
      have continues : next.run (runToDepth depth) (Edge.after execution.outcome :: place)
          (scope.after execution.outcome) executed =
            next.run (runToDepth depth) (.onSuccess :: place) (scope.afterSuccess none)
              executed := by
        rw [outcome, nothing]
        rfl
      -- Nothing was put out, so the child scope is the shared one but for its depth.
      have scopes : Retelling.shallower.SameScope (scope.afterSuccess none) scope :=
        ⟨rfl, rfl, rfl, .above scope.depth⟩
      have ran := settled.runDescriptors keeps next (.onSuccess :: place) place scopes 1
      rw [Descriptor.run_of_next?_some executes (by rw [outcome]; rfl) continues,
        Descriptor.runList_of_ok ((congrArg (·.1.outcome) alone).trans returns), alone, nothing]
      exact ⟨ran.outcome, .cons ⟨trivial, sameExecution⟩ ran.executed, ran.engine⟩

/-- Another flow is shown and then a request sent, on success or as the next item. -/
theorem request_follows_navigateToFlow :
    ∃ engine, (start sampleLibrary ["shop"] "home").1 = .ok engine ∧
      ∃ action next, action = Action.navigateToFlow "shop" "offers" none ∧
        next = Trigger.single (.mk (.apiCall .post "/save" none none) none none) ∧
        action.silent = true ∧
        Retelling.shallower.SameRun (fun _ _ => True)
          ((Descriptor.mk action (some next) none).run (runToDepth 1) [] { fields := [] }
            { engine with replies := sampleReplies })
          ((Trigger.chain (.mk action none none :: next.descriptors)).run (runToDepth 1) []
            { fields := [] } { engine with replies := sampleReplies }) := by
  rcases sampleLibrary_starts with ⟨engine, started⟩
  exact ⟨engine, started, _, _, rfl, rfl, rfl, onSuccess_follows 1 [] { fields := [] } rfl _ _⟩

end Engine

end Storyboard
