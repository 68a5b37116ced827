import Storyboard.Proofs.Engine.Always
import Storyboard.Proofs.Run.Order
/-!
# What a run returns

A run that ends without a fault returns what its last action gave, with one exception. An empty
list returns nothing, also where it is the continuation of an action: the output of that action
is then lost. An empty list among other items cannot stand in the way, since every item is a
descriptor and executes its action.

Main result: `run_returns`.
-/

namespace Storyboard

open Engine

namespace Engine

/-- What an action gave; a failed action gave nothing. -/
def Execution.output (execution : Execution) : Option Json :=
  match execution.outcome with
  | .ok output => output
  | .error _ => none

/-- The output that is returned when nothing is executed after the action of a descriptor. -/
structure Node.Gives (node : Node) (last : Execution) (output : Option Json) : Prop where
  executed : last.Of node
  lost : node.descriptor.next? (Edge.after last.outcome) = some (.chain []) → output = none
  kept : node.descriptor.next? (Edge.after last.outcome) ≠ some (.chain []) →
    output = last.output

/-- The run executed some of the descriptors and returns what the last of them gives. -/
def Run.Yields (run : Run) (nodes : List Node) (output : Option Json) : Prop :=
  ∃ last ∈ run.executed.getLast?, ∃ node ∈ nodes, node.Gives last output

namespace Run

variable {run earlier : Run} {nodes more : List Node} {output : Option Json}

theorem Yields.mono (yields : run.Yields nodes output) (subset : nodes ⊆ more) :
    run.Yields more output := by
  rcases yields with ⟨last, isLast, node, among, gives⟩
  exact ⟨last, isLast, node, subset among, gives⟩

theorem Yields.after (yields : run.Yields nodes output) (earlier : Run) :
    (run.after earlier).Yields nodes output := by
  rcases yields with ⟨last, isLast, rest⟩
  refine ⟨last, ?_, rest⟩
  rw [Run.after, List.getLast?_append, Option.mem_def.1 isLast]
  rfl

/-- After a run that executes nothing, the last action is still that of the run before it. -/
theorem Yields.before (yields : earlier.Yields nodes output) (idle : run.executed = []) :
    (run.after earlier).Yields nodes output := by
  rcases yields with ⟨last, isLast, rest⟩
  refine ⟨last, ?_, rest⟩
  rw [Run.after, idle, List.append_nil]
  exact isLast

end Run

/-- An induction over trees suffices: of a list, the output of the item before it counts. -/
theorem treeCases_output (runSteps : Runner) :
    TreeCases
      (fun descriptor => ∀ place scope engine output,
        (descriptor.run runSteps place scope engine).1.outcome = .ok output →
          (descriptor.run runSteps place scope engine).1.Yields (descriptor.nodes place) output)
      (fun trigger => ∀ place scope engine output,
        (trigger.run runSteps place scope engine).1.outcome = .ok output →
          (trigger = .chain [] ∧ output = none ∧
            (trigger.run runSteps place scope engine).1.executed = []) ∨
          (trigger.run runSteps place scope engine).1.Yields (trigger.nodes place) output)
      (fun descriptors => ∀ place scope index last engine output,
        (Descriptor.runList runSteps place scope index last descriptors engine).1.outcome =
            .ok output →
          (descriptors = [] ∧ output = last ∧
            (Descriptor.runList runSteps place scope index last descriptors engine).1.executed =
              []) ∨
          (Descriptor.runList runSteps place scope index last descriptors engine).1.Yields
            (Descriptor.listNodes place index descriptors) output) where
  descriptor descriptor runs place scope engine output returns := by
    rcases executes : execute runSteps place scope descriptor.action descriptor.onError.isSome
      engine with ⟨execution, executed⟩
    have own : execution.Of ⟨place, descriptor⟩ := of_executes executes
    have here : ⟨place, descriptor⟩ ∈ descriptor.nodes place := Descriptor.mem_nodes.2 (Or.inl rfl)
    cases goesOn : descriptor.next? (Edge.after execution.outcome) with
    | none =>
        rw [Descriptor.run_of_next?_none executes goesOn] at returns ⊢
        have gave : execution.outcome = .ok output := returns
        refine ⟨execution, rfl, _, here, own, ?_, ?_⟩
        · intro empty
          cases goesOn.symm.trans empty
        · intro _
          rw [Execution.output, gave]
    | some next =>
        rw [Descriptor.run_of_next?_some executes goesOn rfl] at returns ⊢
        rcases runs _ next goesOn _ _ executed output returns with ⟨rfl, rfl, idle⟩ | yields
        · have alone : (Run.ofExecution execution).Yields (descriptor.nodes place) none :=
            ⟨execution, rfl, _, here, own, fun _ => rfl, fun other => (other goesOn).elim⟩
          exact alone.before idle
        · have below := yields.mono fun node member =>
            Descriptor.mem_nodes.2 (Or.inr ⟨_, next, goesOn, member⟩)
          exact below.after (.ofExecution execution)
  single descriptor runs place scope engine output returns := by
    right
    rw [Trigger.run_single] at returns ⊢
    rw [Trigger.nodes_single]
    exact runs place scope engine output returns
  chain descriptors runs place scope engine output returns := by
    rw [Trigger.run_chain] at returns ⊢
    rw [Trigger.nodes_chain]
    rcases runs place scope 0 none engine output returns with ⟨rfl, nothing, idle⟩ | yields
    · exact Or.inl ⟨rfl, nothing, idle⟩
    · exact Or.inr yields
  nil place scope index last engine output returns := by
    rw [Descriptor.runList] at returns ⊢
    exact Or.inl ⟨rfl, (Except.ok.inj returns).symm, rfl⟩
  cons descriptor rest runs goesOn place scope index last engine output returns := by
    right
    rw [Descriptor.listNodes_cons]
    cases first :
      (descriptor.run runSteps (.item index :: place) scope engine).1.outcome with
    | error fault =>
        rw [Descriptor.runList_of_error first] at returns
        cases first.symm.trans returns
    | ok gave =>
        have yields := runs _ _ _ gave first
        rw [Descriptor.runList_of_ok first] at returns ⊢
        rcases goesOn _ _ _ _ _ output returns with ⟨rfl, rfl, idle⟩ | later
        · exact (yields.mono (List.subset_append_left _ _)).before idle
        · exact (later.mono (List.subset_append_right _ _)).after _

/-- What is promised of the output of a run that ends without a fault. -/
structure Run.Returns (run : Run) (trigger : Trigger) : Prop where
  /-- Only an empty list executes nothing, and it returns nothing. -/
  idle : ∀ output, run.outcome = .ok output → run.executed = [] →
    trigger = .chain [] ∧ output = none
  /-- What the last action gave is returned, unless its outcome asks for a continuation that is
  an empty list: then nothing is. -/
  last : ∀ output, run.outcome = .ok output → ∀ last ∈ run.executed.getLast?,
    ∃ node ∈ trigger.nodes [], node.Gives last output

/-- Every run returns what its last action gave, up to empty continuations. -/
theorem run_returns (runSteps : Runner) (trigger : Trigger) (fields : Fields)
    (engine : Engine) : (engine.run runSteps trigger fields).1.Returns trigger := by
  change (trigger.run runSteps [] { fields } engine).1.Returns trigger
  have yields := Trigger.induction (treeCases_output runSteps) trigger [] { fields } engine
  constructor
  · intro output returns nothing
    rcases yields output returns with ⟨isEmpty, isNone, -⟩ | ⟨last, isLast, -⟩
    · exact ⟨isEmpty, isNone⟩
    · rw [nothing] at isLast
      cases isLast
  · intro output returns last isLast
    rcases yields output returns with ⟨-, -, nothing⟩ | ⟨other, isOther, node, among, gives⟩
    · rw [nothing] at isLast
      cases isLast
    · cases Option.mem_unique isOther isLast
      exact ⟨node, among, gives⟩

def sampleReply : Table (List (Reply Step)) :=
  [("/a", [{ outcome := .ok ⟨200, .int 1⟩ }])]

/-- A request that is followed by an empty list. -/
def sampleRequest : Trigger :=
  .single (.mk (.apiCall .get "/a" none none) (some (.chain [])) none)

/-- The output of the only action is lost to its empty continuation. -/
theorem run_loses_output :
    ∃ engine, (start sampleLibrary ["shop"] "home").1 = .ok engine ∧
      ∃ run last,
        (Engine.run (runToDepth 0) sampleRequest [] { engine with replies := sampleReply }).1 =
          run ∧
        run.executed.getLast? = some last ∧ last.output = some (.int 1) ∧
        run.outcome = .ok none := by
  have gives : ((start sampleLibrary ["shop"] "home").1.toOption.map fun engine =>
      let run := (Engine.run (runToDepth 0) sampleRequest []
        { engine with replies := sampleReply }).1
      (run.outcome, run.executed.getLast?.map Execution.output)) =
        some (.ok none, some (some (.int 1))) := by
    decide +kernel
  cases started : (start sampleLibrary ["shop"] "home").1 with
  | error fault =>
      rw [started] at gives
      cases gives
  | ok engine =>
      rw [started] at gives
      obtain ⟨outcome, output⟩ := Prod.mk.inj (Option.some.inj gives)
      obtain ⟨last, isLast, lastOutput⟩ := Option.map_eq_some_iff.1 output
      exact ⟨engine, rfl, _, last, rfl, isLast, lastOutput, outcome⟩

end Engine

end Storyboard
