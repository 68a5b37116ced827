import Storyboard.Proofs.Run.Order
/-!
# A run as a sequence of actions

All that a run does to an engine is to execute actions, each on the engine that the one before
left. Whatever every action keeps, every run keeps, and what an action did is undone by none
of those that come after it.

An executed action either belongs to the trigger of the run or to the continuation of another
one, and then its scope comes from that of the other.

Main results: `Trigger.run_sequence` and `Trigger.run_derives`.
-/

namespace Storyboard

open Engine

namespace Engine

/-- What an execution records of how it began. -/
theorem execute_records {runSteps : Runner} {place : List Edge} {scope : Scope}
    {action : Action} {handled : Bool} {engine next : Engine} {execution : Execution}
    (executes : execute runSteps place scope action handled engine = (execution, next)) :
    execution.place = place ∧ execution.scope = scope ∧ execution.handled = handled ∧
      execution.action =
        action.resolve (engine.context.scopes scope.fields scope.response scope.error) := by
  rw [execute_eq] at executes
  cases executes
  exact ⟨rfl, rfl, rfl, rfl⟩

/-- Descriptors among the nodes are executed, each on the engine that the one before left. -/
inductive Sequence (runSteps : Runner) (nodes : List Node) :
    Engine → List Execution → Engine → Prop where
  | nil (engine : Engine) : Sequence runSteps nodes engine [] engine
  | cons {engine next last : Engine} {execution : Execution} {rest : List Execution}
      (node : Node) (scope : Scope) (among : node ∈ nodes)
      (executes : execute runSteps node.place scope node.descriptor.action
        node.descriptor.onError.isSome engine = (execution, next))
      (goesOn : Sequence runSteps nodes next rest last) :
      Sequence runSteps nodes engine (execution :: rest) last

namespace Sequence

variable {runSteps : Runner} {nodes : List Node} {engine next last : Engine}
  {earlier later : List Execution}

theorem mono {wider : List Node} (sequence : Sequence runSteps nodes engine earlier last)
    (included : nodes ⊆ wider) : Sequence runSteps wider engine earlier last := by
  induction sequence with
  | nil engine => exact .nil engine
  | cons node scope among executes _ ih => exact .cons node scope (included among) executes ih

theorem append (first : Sequence runSteps nodes engine earlier next)
    (second : Sequence runSteps nodes next later last) :
    Sequence runSteps nodes engine (earlier ++ later) last := by
  induction first with
  | nil engine => exact second
  | cons node scope among executes _ ih => exact .cons node scope among executes (ih second)

theorem split (sequence : Sequence runSteps nodes engine (earlier ++ later) last) :
    ∃ between, Sequence runSteps nodes engine earlier between ∧
      Sequence runSteps nodes between later last := by
  induction earlier generalizing engine with
  | nil => exact ⟨engine, .nil engine, sequence⟩
  | cons execution rest ih =>
      cases sequence with
      | cons node scope among executes goesOn =>
          rcases ih goesOn with ⟨between, first, second⟩
          exact ⟨between, .cons node scope among executes first, second⟩

theorem keep {P : Engine → Prop} (sequence : Sequence runSteps nodes engine earlier last)
    (step : ∀ place scope action handled engine, P engine →
      P (execute runSteps place scope action handled engine).2)
    (holds : P engine) : P last := by
  induction sequence with
  | nil engine => exact holds
  | cons node scope _ executes _ ih =>
      apply ih
      have kept := step node.place scope node.descriptor.action node.descriptor.onError.isSome _
        holds
      rw [executes] at kept
      exact kept

theorem exists_node {execution : Execution}
    (sequence : Sequence runSteps nodes engine earlier last) (member : execution ∈ earlier) :
    ∃ node ∈ nodes, execution.Of node := by
  induction sequence with
  | nil engine => cases member
  | cons node scope among executes _ ih =>
      rcases List.mem_cons.1 member with rfl | later
      · rcases execute_records executes with ⟨place, -, handled, action⟩
        exact ⟨node, among, place, ⟨_, action⟩, handled⟩
      · exact ih later

end Sequence

theorem runCases_sequence (runSteps : Runner) :
    RunCases runSteps
      (fun descriptor place _ engine run last =>
        Sequence runSteps (descriptor.nodes place) engine run.executed last)
      (fun trigger place _ engine run last =>
        Sequence runSteps (trigger.nodes place) engine run.executed last)
      (fun descriptors place _ index engine run last =>
        Sequence runSteps (Descriptor.listNodes place index descriptors) engine run.executed
          last) where
  stops executes _ :=
    .cons ⟨_, _⟩ _ (Descriptor.mem_nodes.2 (Or.inl rfl)) executes (.nil _)
  continues executes goesOn runs := by
    apply Sequence.cons ⟨_, _⟩ _ (Descriptor.mem_nodes.2 (Or.inl rfl)) executes
    apply runs.mono
    intro node below
    exact Descriptor.mem_nodes.2 (Or.inr ⟨_, _, goesOn, below⟩)
  single runs := by
    rw [Trigger.nodes_single]
    exact runs
  chain runs := by
    rw [Trigger.nodes_chain]
    exact runs
  nil _ _ _ _ engine := .nil engine
  cons first _ goesOn := by
    rw [Descriptor.listNodes_cons]
    apply (first.mono _).append (goesOn.mono _)
    · exact List.subset_append_left _ _
    · exact List.subset_append_right _ _
  fails first _ := by
    rw [Descriptor.listNodes_cons]
    exact first.mono (List.subset_append_left _ _)

end Engine

/-- A run of a trigger is the sequence of the actions that it logs. -/
theorem Trigger.run_sequence (runSteps : Runner) (trigger : Trigger) (place : List Edge)
    (scope : Scope) (engine : Engine) :
    Sequence runSteps (trigger.nodes place) engine
      (trigger.run runSteps place scope engine).1.executed
      (trigger.run runSteps place scope engine).2 :=
  Trigger.run_induction (runCases_sequence runSteps) trigger place scope engine

namespace Engine

/-- The place of a descriptor at the top of a trigger. -/
def TopOf (place way : List Edge) : Prop :=
  way = place ∨ ∃ index, way = .item index :: place

/-- The action failed, and nothing handles the failure. -/
def Execution.Unhandled (execution : Execution) (fault : Fault) : Prop :=
  execution.outcome = .error fault ∧ execution.handled = false

/-- Every executed action stands at the top, with the scope given, or it belongs to the
continuation that another executed action asked for, with the scope that goes with it. Every
trigger that was started is one of those begun with or such a continuation. -/
structure Run.Derives (run : Run) (top begun : List Edge → Prop) (scope : Scope) : Prop where
  scopes : ∀ execution ∈ run.executed,
    (top execution.place ∧ execution.scope = scope) ∨
      ∃ parent ∈ run.executed,
        TopOf (Edge.after parent.outcome :: parent.place) execution.place ∧
          execution.scope = parent.scope.after parent.outcome
  started : ∀ start ∈ run.started,
    begun start ∨
      ∃ parent ∈ run.executed, (∀ fault, ¬parent.Unhandled fault) ∧
        start = Edge.after parent.outcome :: parent.place

namespace Run.Derives

variable {run following : Run} {top begun : List Edge → Prop} {scope : Scope}

theorem mono {wider more : List Edge → Prop} (derives : run.Derives top begun scope)
    (included : ∀ way, top way → wider way) (includes : ∀ way, begun way → more way) :
    run.Derives wider more scope := by
  refine ⟨?_, ?_⟩
  · intro execution member
    exact (derives.scopes execution member).imp_left fun here => ⟨included _ here.1, here.2⟩
  · intro start member
    exact (derives.started start member).imp_left (includes start)

theorem after (first : run.Derives top begun scope) (second : following.Derives top begun scope) :
    (following.after run).Derives top begun scope := by
  refine ⟨?_, ?_⟩
  · intro execution member
    rcases List.mem_append.1 member with here | later
    · apply (first.scopes execution here).imp_right
      intro ⟨parent, among, derived⟩
      exact ⟨parent, List.mem_append_left _ among, derived⟩
    · apply (second.scopes execution later).imp_right
      intro ⟨parent, among, derived⟩
      exact ⟨parent, List.mem_append_right _ among, derived⟩
  · intro start member
    rcases List.mem_append.1 member with here | later
    · apply (first.started start here).imp_right
      intro ⟨parent, among, derived⟩
      exact ⟨parent, List.mem_append_left _ among, derived⟩
    · apply (second.started start later).imp_right
      intro ⟨parent, among, derived⟩
      exact ⟨parent, List.mem_append_right _ among, derived⟩

theorem returnedAt (derives : run.Derives top begun scope) (place : List Edge) :
    (run.returnedAt place).Derives top begun scope :=
  ⟨derives.scopes, derives.started⟩

theorem alone (execution : Execution) :
    (Run.ofExecution execution).Derives (· = execution.place) (fun _ => False)
      execution.scope := by
  refine ⟨?_, ?_⟩
  · intro other member
    rw [List.mem_singleton.1 member]
    exact Or.inl ⟨rfl, rfl⟩
  · intro start member
    cases member

theorem continued {execution : Execution} (handles : ∀ fault, ¬execution.Unhandled fault)
    (derives : run.Derives (TopOf (Edge.after execution.outcome :: execution.place))
      (· = Edge.after execution.outcome :: execution.place)
      (execution.scope.after execution.outcome)) :
    (run.after (.ofExecution execution)).Derives (· = execution.place) (fun _ => False)
      execution.scope := by
  refine ⟨?_, ?_⟩
  · intro other member
    rcases List.mem_cons.1 member with rfl | later
    · exact Or.inl ⟨rfl, rfl⟩
    · right
      rcases derives.scopes other later with top | ⟨parent, among, derived⟩
      · exact ⟨execution, List.mem_cons_self, top⟩
      · exact ⟨parent, List.mem_cons_of_mem _ among, derived⟩
  · intro start member
    right
    rcases derives.started start member with begun | ⟨parent, among, derived⟩
    · exact ⟨execution, List.mem_cons_self, handles, begun⟩
    · exact ⟨parent, List.mem_cons_of_mem _ among, derived⟩

theorem startedAt {place : List Edge}
    (derives : run.Derives (TopOf place) (fun _ => False) scope) :
    (run.startedAt place).Derives (TopOf place) (· = place) scope := by
  refine ⟨derives.scopes, ?_⟩
  intro start member
  rcases List.mem_cons.1 member with here | later
  · exact Or.inl here
  · exact Or.inr ((derives.started start later).resolve_left id)

theorem nil (output : Option Json) (top begun : List Edge → Prop) (scope : Scope) :
    (⟨.ok output, [], [], []⟩ : Run).Derives top begun scope := by
  refine ⟨?_, ?_⟩
  · intro execution member
    cases member
  · intro start member
    cases member

theorem item {place : List Edge} {index : Nat}
    (derives : run.Derives (· = .item index :: place) (fun _ => False) scope) :
    run.Derives (TopOf place) (fun _ => False) scope := by
  apply derives.mono
  · intro way same
    exact Or.inr ⟨index, same⟩
  · intro way
    exact id

end Run.Derives

/-- An action whose descriptor has the continuation that its outcome asks for. -/
theorem not_unhandled_of_next? {descriptor : Descriptor} {execution : Execution}
    {next : Trigger} (handled : execution.handled = descriptor.onError.isSome)
    (goesOn : descriptor.next? (Edge.after execution.outcome) = some next) (fault : Fault) :
    ¬execution.Unhandled fault := by
  intro unhandled
  rw [unhandled.1] at goesOn
  have bare : descriptor.onError.isSome = false := handled.symm.trans unhandled.2
  have continues : descriptor.onError = some next := goesOn
  rw [continues] at bare
  cases bare

theorem runCases_derives (runSteps : Runner) :
    RunCases runSteps
      (fun _ place scope _ run _ => run.Derives (· = place) (fun _ => False) scope)
      (fun _ place scope _ run _ => run.Derives (TopOf place) (· = place) scope)
      (fun _ place scope _ _ run _ => run.Derives (TopOf place) (fun _ => False) scope) where
  stops executes _ := by
    rcases execute_records executes with ⟨rfl, rfl, -, -⟩
    exact (Run.Derives.alone _).returnedAt _
  continues executes goesOn runs := by
    rcases execute_records executes with ⟨rfl, rfl, handled, -⟩
    apply Run.Derives.returnedAt
    exact .continued (not_unhandled_of_next? handled goesOn) runs
  single runs := by
    apply Run.Derives.startedAt
    exact runs.mono (fun _ => Or.inl) fun _ => id
  chain runs := runs.startedAt
  nil _ scope _ output _ := .nil output _ _ scope
  cons first _ goesOn := first.item.after goesOn
  fails first _ := first.item

end Engine

/-- The actions and the continuations of a run derive from its trigger. -/
theorem Trigger.run_derives (runSteps : Runner) (trigger : Trigger) (place : List Edge)
    (scope : Scope) (engine : Engine) :
    (trigger.run runSteps place scope engine).1.Derives (TopOf place) (· = place) scope :=
  Trigger.run_induction (runCases_derives runSteps) trigger place scope engine

end Storyboard
