import Storyboard.Proofs.Run.Sequence
/-!
# Faults that nothing handles

A run fails if and only if one of its actions failed without a continuation for failures. That
action is the last one: its fault goes up unchanged through all that encloses it, and what was
done before stays done.

Main result: `run_failsFast`.
-/

namespace Storyboard

open Engine

namespace Engine

namespace Run

structure Completes (run : Run) : Prop where
  outcome : ∃ output, run.outcome = .ok output
  handled : ∀ execution ∈ run.executed, ∀ fault, ¬execution.Unhandled fault
  returned : ∀ entry ∈ run.returned, ∃ output, entry.2 = .ok output

/-- The run ended with an action that failed, and every failure before it was handled. What
encloses the action returned its fault, all else returned without one. -/
structure Aborts (run : Run) (earlier : List Execution) (failing : Execution)
    (fault : Fault) : Prop where
  outcome : run.outcome = .error fault
  executed : run.executed = earlier ++ [failing]
  unhandled : failing.Unhandled fault
  handled : ∀ execution ∈ earlier, ∀ fault, ¬execution.Unhandled fault
  unwinds : ∀ entry ∈ run.returned, entry.1 <:+ failing.place → entry.2 = .error fault
  others : ∀ entry ∈ run.returned, ¬entry.1 <:+ failing.place → ∃ output, entry.2 = .ok output

def Settles (run : Run) : Prop :=
  run.Completes ∨ ∃ earlier failing fault, run.Aborts earlier failing fault

variable {run following : Run} {execution failing : Execution} {earlier : List Execution}
  {fault : Fault}

theorem Settles.startedAt (settles : run.Settles) (place : List Edge) :
    (run.startedAt place).Settles := by
  rcases settles with completes | ⟨earlier, failing, fault, aborts⟩
  · exact Or.inl ⟨completes.outcome, completes.handled, completes.returned⟩
  · exact Or.inr ⟨earlier, failing, fault, aborts.outcome, aborts.executed, aborts.unhandled,
      aborts.handled, aborts.unwinds, aborts.others⟩

/-! ### Descriptors -/

theorem Settles.alone {descriptor : Descriptor}
    (handled : execution.handled = descriptor.onError.isSome)
    (stops : descriptor.next? (Edge.after execution.outcome) = none) :
    ((Run.ofExecution execution).returnedAt execution.place).Settles := by
  have returned : ∀ entry ∈ ((Run.ofExecution execution).returnedAt execution.place).returned,
      entry = (execution.place, execution.outcome) :=
    fun entry member => List.mem_singleton.1 member
  cases outcome : execution.outcome with
  | ok output =>
      left
      refine ⟨⟨output, outcome⟩, ?_, ?_⟩
      · intro other member fault unhandled
        rw [List.mem_singleton.1 member, Execution.Unhandled, outcome] at unhandled
        cases unhandled.1
      · intro entry member
        rw [returned entry member]
        exact ⟨output, outcome⟩
  | error fault =>
      right
      rw [outcome] at stops
      have bare : descriptor.onError = none := stops
      rw [bare] at handled
      refine ⟨[], execution, fault, outcome, rfl, ⟨outcome, handled⟩, ?_, ?_, ?_⟩
      · intro other member
        cases member
      · intro entry member _
        rw [returned entry member]
        exact outcome
      · intro entry member apart
        rw [returned entry member] at apart
        exact (apart (List.suffix_refl _)).elim

/-- A descriptor returns what its continuation returns. -/
theorem Settles.continued (handles : ∀ fault, ¬execution.Unhandled fault) (settles : run.Settles)
    (below : ∀ other ∈ run.executed, execution.place <:+ other.place) :
    ((run.after (.ofExecution execution)).returnedAt execution.place).Settles := by
  have returned : ∀ entry ∈
      ((run.after (.ofExecution execution)).returnedAt execution.place).returned,
      entry ∈ run.returned ∨ entry = (execution.place, run.outcome) := by
    intro entry member
    exact (List.mem_append.1 member).imp_right List.mem_singleton.1
  rcases settles with completes | ⟨earlier, failing, fault, aborts⟩
  · left
    refine ⟨completes.outcome, ?_, ?_⟩
    · intro other member
      rcases List.mem_cons.1 member with rfl | later
      · exact handles
      · exact completes.handled other later
    · intro entry member
      rcases returned entry member with inside | rfl
      · exact completes.returned entry inside
      · exact completes.outcome
  · right
    have atEnd : failing ∈ run.executed := by
      rw [aborts.executed]
      exact List.mem_append_right _ (List.mem_singleton_self failing)
    refine ⟨execution :: earlier, failing, fault, aborts.outcome, ?_, aborts.unhandled, ?_, ?_, ?_⟩
    · change execution :: run.executed = _
      rw [aborts.executed]
      rfl
    · intro other member
      rcases List.mem_cons.1 member with rfl | later
      · exact handles
      · exact aborts.handled other later
    · intro entry member encloses
      rcases returned entry member with inside | rfl
      · exact aborts.unwinds entry inside encloses
      · exact aborts.outcome
    · intro entry member apart
      rcases returned entry member with inside | rfl
      · exact aborts.others entry inside apart
      · exact (apart (below failing atEnd)).elim

/-! ### Lists -/

theorem Settles.nil (output : Option Json) : (⟨.ok output, [], [], []⟩ : Run).Settles := by
  left
  refine ⟨⟨output, rfl⟩, ?_, ?_⟩
  · intro execution member
    cases member
  · intro entry member
    cases member

theorem Settles.completes (settles : run.Settles) {output : Option Json}
    (succeeded : run.outcome = .ok output) : run.Completes := by
  rcases settles with completes | ⟨earlier, failing, fault, aborts⟩
  · exact completes
  · cases aborts.outcome.symm.trans succeeded

/-- A list returns what the rest of it returns once an item completed. -/
theorem Completes.cons (completes : run.Completes) (settles : following.Settles)
    (apart : ∀ entry ∈ run.returned, ∀ other ∈ following.executed, ¬entry.1 <:+ other.place) :
    (following.after run).Settles := by
  rcases settles with finished | ⟨earlier, failing, fault, aborts⟩
  · left
    refine ⟨finished.outcome, ?_, ?_⟩
    · intro execution member
      rcases List.mem_append.1 member with here | later
      · exact completes.handled execution here
      · exact finished.handled execution later
    · intro entry member
      rcases List.mem_append.1 member with here | later
      · exact completes.returned entry here
      · exact finished.returned entry later
  · right
    have atEnd : failing ∈ following.executed := by
      rw [aborts.executed]
      exact List.mem_append_right _ (List.mem_singleton_self failing)
    refine ⟨run.executed ++ earlier, failing, fault, aborts.outcome, ?_, aborts.unhandled,
      ?_, ?_, ?_⟩
    · change run.executed ++ following.executed = _
      rw [aborts.executed, List.append_assoc]
    · intro execution member
      rcases List.mem_append.1 member with here | later
      · exact completes.handled execution here
      · exact aborts.handled execution later
    · intro entry member encloses
      rcases List.mem_append.1 member with here | later
      · exact (apart entry here failing atEnd encloses).elim
      · exact aborts.unwinds entry later encloses
    · intro entry member outside
      rcases List.mem_append.1 member with here | later
      · exact completes.returned entry here
      · exact aborts.others entry later outside

end Run

/-! ### Trees -/

theorem apart_of_later {run following : Run} {place : List Edge} {index : Nat}
    {descriptor : Descriptor} {rest : List Descriptor}
    (runs : run.OfDescriptor (.item index :: place) descriptor)
    (goesOn : following.OfList place (index + 1) rest) :
    ∀ entry ∈ run.returned, ∀ other ∈ following.executed, ¬entry.1 <:+ other.place := by
  intro entry returned other executed encloses
  have inside := runs.within.returned entry returned
  exact not_belowList (inside.trans encloses) (goesOn.within.executed other executed)

theorem runCases_settles (runSteps : Runner) :
    RunCases runSteps
      (fun descriptor place _ _ run _ => run.OfDescriptor place descriptor ∧ run.Settles)
      (fun trigger place _ _ run _ => run.OfTrigger place trigger ∧ run.Settles)
      (fun descriptors place _ index _ run _ => run.OfList place index descriptors ∧
        run.Settles) where
  stops executes stops := by
    refine ⟨.alone (of_executes executes) stops, ?_⟩
    rcases execute_records executes with ⟨rfl, -, handled, -⟩
    exact .alone handled stops
  continues executes goesOn runs := by
    rcases runs with ⟨ofNext, settles⟩
    refine ⟨.continued (of_executes executes) goesOn ofNext, ?_⟩
    rcases execute_records executes with ⟨rfl, -, handled, -⟩
    apply Run.Settles.continued (not_unhandled_of_next? handled goesOn) settles
    intro other member
    exact suffix_of_cons_suffix (ofNext.within.executed other member)
  single runs := ⟨.single runs.1, runs.2.startedAt _⟩
  chain runs := ⟨.chain runs.1, runs.2.startedAt _⟩
  nil place _ index output _ := ⟨.nil (.ok output) place index, .nil output⟩
  cons first succeeded goesOn := by
    refine ⟨.cons first.1 succeeded goesOn.1, ?_⟩
    exact (first.2.completes succeeded).cons goesOn.2 (apart_of_later first.1 goesOn.1)
  fails first failed := ⟨.stopped first.1 failed, first.2⟩

/-! ### Runs -/

/-- An executed action of the trigger failed with a fault and has no `onError`. -/
structure Run.FailsAt (run : Run) (trigger : Trigger) (failing : Execution)
    (fault : Fault) : Prop where
  executed : failing ∈ run.executed
  failed : failing.outcome = .error fault
  bare : ∃ node ∈ trigger.nodes [], node.place = failing.place ∧ node.descriptor.onError = none

/-- What is promised of a run that was ended by an action. -/
structure EndedBy (runSteps : Runner) (trigger : Trigger) (engine last : Engine) (run : Run)
    (failing : Execution) (fault : Fault) : Prop where
  returns : run.outcome = .error fault
  /-- Every descriptor around the action returns the fault as it is, and nothing else. -/
  unwinds : ∀ enclosing ∈ run.executed, enclosing.place <:+ failing.place → ∀ outcome,
    (enclosing.place, outcome) ∈ run.returned ↔ outcome = .error fault
  others : ∀ entry ∈ run.returned, ¬entry.1 <:+ failing.place → ∃ output, entry.2 = .ok output
  /-- The action is the last one, and only continuations of earlier ones were started. The
  earlier actions led to the engine that it found, and the run ends with the one that it left. -/
  last : ∃ earlier, run.executed = earlier ++ [failing] ∧
    (∀ start ∈ run.started, start = [] ∨
      ∃ parent ∈ earlier, start = Edge.after parent.outcome :: parent.place) ∧
    ∃ before after, Sequence runSteps (trigger.nodes []) engine earlier before ∧
      Sequence runSteps (trigger.nodes []) before [failing] after ∧ last = after.enter .idle

/-- What is promised of a run and of the engine after it. -/
structure FailsFast (runSteps : Runner) (trigger : Trigger) (engine last : Engine)
    (run : Run) : Prop where
  fails : ∀ fault, run.outcome = .error fault ↔ ∃ failing, run.FailsAt trigger failing fault
  ends : ∀ failing fault, run.FailsAt trigger failing fault →
    EndedBy runSteps trigger engine last run failing fault
  completes : (∀ execution ∈ run.executed, ∀ fault, execution.outcome = .error fault →
    ∀ node ∈ trigger.nodes [], node.place = execution.place →
      node.descriptor.onError.isSome = true) → ∃ output, run.outcome = .ok output

section Whole

variable {runSteps : Runner} {trigger : Trigger} {engine last : Engine} {run : Run}
  {failing : Execution} {fault : Fault}

theorem handled_of_node {execution : Execution} {node : Node}
    (sequence : Sequence runSteps (trigger.nodes []) engine run.executed last)
    (member : execution ∈ run.executed) (among : node ∈ trigger.nodes [])
    (same : node.place = execution.place) :
    execution.handled = node.descriptor.onError.isSome := by
  rcases sequence.exists_node member with ⟨own, ownAmong, ofOwn⟩
  have places : own.place = node.place := ofOwn.place.symm.trans same.symm
  have nodes : own = node :=
    List.inj_on_of_nodup_map (trigger.nodup_places []) ownAmong among places
  rw [ofOwn.handled, nodes]

theorem Run.Aborts.failsAt {earlier : List Execution} (aborts : run.Aborts earlier failing fault)
    (sequence : Sequence runSteps (trigger.nodes []) engine run.executed last) :
    run.FailsAt trigger failing fault := by
  have executed : failing ∈ run.executed := by
    rw [aborts.executed]
    exact List.mem_append_right _ (List.mem_singleton_self failing)
  rcases sequence.exists_node executed with ⟨node, among, ofNode⟩
  refine ⟨executed, aborts.unhandled.1, node, among, ofNode.place.symm, ?_⟩
  have bare : node.descriptor.onError.isSome = false := ofNode.handled.symm.trans aborts.unhandled.2
  simpa using bare

theorem Run.FailsAt.aborts (failsAt : run.FailsAt trigger failing fault) (settles : run.Settles)
    (sequence : Sequence runSteps (trigger.nodes []) engine run.executed last) :
    ∃ earlier, run.Aborts earlier failing fault := by
  rcases failsAt.bare with ⟨node, among, same, bare⟩
  have unhandled : failing.Unhandled fault := by
    refine ⟨failsAt.failed, ?_⟩
    rw [handled_of_node sequence failsAt.executed among same, bare]
    rfl
  rcases settles with completes | ⟨earlier, other, otherFault, aborts⟩
  · exact (completes.handled failing failsAt.executed fault unhandled).elim
  · -- Every failure before the last action was handled, so this one is the last action's.
    have executed := failsAt.executed
    rw [aborts.executed, List.mem_append, List.mem_singleton] at executed
    rcases executed with before | rfl
    · exact (aborts.handled failing before fault unhandled).elim
    · have faults : otherFault = fault := by
        have outcomes := aborts.unhandled.1.symm.trans unhandled.1
        simpa using outcomes
      exact ⟨earlier, faults ▸ aborts⟩

theorem Run.Aborts.endedBy {earlier : List Execution} {scope : Scope} {top : List Edge → Prop}
    (aborts : run.Aborts earlier failing fault) (covers : run.Covers (trigger.nodes []))
    (derives : run.Derives top (· = []) scope)
    (sequence : Sequence runSteps (trigger.nodes []) engine run.executed last) :
    EndedBy runSteps trigger engine (last.enter .idle) run failing fault := by
  refine ⟨aborts.outcome, ?_, aborts.others, earlier, aborts.executed, ?_, ?_⟩
  · intro enclosing executed encloses outcome
    constructor
    · intro returned
      exact aborts.unwinds _ returned encloses
    · rintro rfl
      -- It returned, since every executed descriptor does, and it cannot have returned else.
      have places : enclosing.place ∈ run.returned.map Prod.fst :=
        covers.returns.mem_iff.2 (List.mem_map_of_mem executed)
      rcases List.mem_map.1 places with ⟨entry, returned, same⟩
      have faulty := aborts.unwinds entry returned (same ▸ encloses)
      rw [← same, ← faulty]
      exact returned
  · intro start started
    apply (derives.started start started).imp_right
    intro ⟨parent, among, handles, begins⟩
    refine ⟨parent, ?_, begins⟩
    rw [aborts.executed, List.mem_append, List.mem_singleton] at among
    rcases among with before | rfl
    · exact before
    · exact (handles fault aborts.unhandled).elim
  · rw [aborts.executed] at sequence
    rcases sequence.split with ⟨before, first, second⟩
    exact ⟨before, last, first, second, rfl⟩

end Whole

/-- Every run fails exactly when an action of it fails unhandled, and with that action. -/
theorem run_failsFast (runSteps : Runner) (trigger : Trigger) (fields : Fields)
    (engine : Engine) :
    FailsFast runSteps trigger engine (engine.run runSteps trigger fields).2
      (engine.run runSteps trigger fields).1 := by
  have sequence := trigger.run_sequence runSteps [] { fields } engine
  have derives := trigger.run_derives runSteps [] { fields } engine
  rcases Trigger.run_induction (runCases_settles runSteps) trigger [] { fields } engine with
    ⟨ofTrigger, settles⟩
  refine ⟨?_, ?_, ?_⟩
  · intro fault
    constructor
    · intro failed
      rcases settles with completes | ⟨earlier, failing, other, aborts⟩
      · rcases completes.outcome with ⟨output, succeeded⟩
        cases failed.symm.trans succeeded
      · cases failed.symm.trans aborts.outcome
        exact ⟨failing, aborts.failsAt sequence⟩
    · rintro ⟨failing, failsAt⟩
      rcases failsAt.aborts settles sequence with ⟨earlier, aborts⟩
      exact aborts.outcome
  · intro failing fault failsAt
    rcases failsAt.aborts settles sequence with ⟨earlier, aborts⟩
    exact aborts.endedBy ofTrigger.covers derives sequence
  · intro handled
    rcases settles with completes | ⟨earlier, failing, fault, aborts⟩
    · exact completes.outcome
    · have failsAt := aborts.failsAt sequence
      rcases failsAt.bare with ⟨node, among, same, bare⟩
      have handles := handled failing failsAt.executed fault failsAt.failed node among same
      rw [bare] at handles
      cases handles

end Engine

end Storyboard
