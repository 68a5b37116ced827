import Storyboard.Proofs.Run.Log
/-!
# The order of a run

A run goes through the tree of a trigger once, in document order, and leaves out what the
outcomes do not ask for. No descriptor is executed twice, no continuation is started that
the outcome of the action itself does not ask for, and a list goes on only after an item
that returned without a fault.

Main result: `run_follows`.
-/

namespace Storyboard

open Engine

namespace Engine

namespace Run

/-- A run executed some of the descriptors, in their order, each of them returned, and the run
did at each what it asks for. -/
structure Covers (run : Run) (nodes : List Node) : Prop where
  order : ∃ taken, taken.Sublist nodes ∧ List.Forall₂ Execution.Of run.executed taken
  returns : (run.returned.map Prod.fst).Perm (run.executed.map Execution.place)
  heeds : ∀ node ∈ nodes, run.Heeds node

structure OfDescriptor (run : Run) (place : List Edge) (descriptor : Descriptor) : Prop where
  covers : run.Covers (descriptor.nodes place)
  executes : run.Executes place
  started : ∀ start ∈ run.started, ∃ edge, edge :: place <:+ start
  returned : ∀ outcome, (place, outcome) ∈ run.returned ↔ outcome = run.outcome

structure OfTrigger (run : Run) (place : List Edge) (trigger : Trigger) : Prop where
  covers : run.Covers (trigger.nodes place)
  runs : run.RunsAt place trigger
  once : run.started.count place = 1
  started : ∀ start ∈ run.started, place <:+ start

structure OfList (run : Run) (place : List Edge) (index : Nat)
    (descriptors : List Descriptor) : Prop where
  covers : run.Covers (Descriptor.listNodes place index descriptors)
  started : ∀ start ∈ run.started, BelowList place index start
  begins : run.Executes (.item index :: place) ↔ descriptors ≠ []
  advances : ∀ position, index ≤ position → position + 1 < index + descriptors.length →
    (run.Executes (.item (position + 1) :: place) ↔
      run.Executes (.item position :: place) ∧ run.Succeeds (.item position :: place))

variable {run : Run} {place : List Edge} {region : List Edge → Prop}

/-! ### Regions -/

theorem map_place_of_forall₂ {executed : List Execution} {taken : List Node}
    (pairs : List.Forall₂ Execution.Of executed taken) :
    executed.map Execution.place = taken.map Node.place := by
  induction pairs with
  | nil => rfl
  | cons pair _ ih => rw [List.map_cons, List.map_cons, pair.place, ih]

theorem Covers.executed {nodes : List Node} (covers : run.Covers nodes) :
    ∀ execution ∈ run.executed, ∃ node ∈ nodes, execution.place = node.place := by
  rcases covers.order with ⟨taken, sublist, pairs⟩
  intro execution member
  have among := List.mem_map_of_mem (f := Execution.place) member
  rw [map_place_of_forall₂ pairs] at among
  rcases List.mem_map.1 among with ⟨node, isTaken, same⟩
  exact ⟨node, sublist.subset isTaken, same.symm⟩

theorem Covers.within {nodes : List Node} (covers : run.Covers nodes)
    (inside : ∀ node ∈ nodes, region node.place) (started : ∀ start ∈ run.started, region start) :
    run.Within region := by
  have executed : ∀ execution ∈ run.executed, region execution.place := by
    intro execution member
    rcases covers.executed execution member with ⟨node, among, same⟩
    exact same ▸ inside node among
  refine ⟨executed, started, ?_⟩
  intro entry member
  have returned := covers.returns.subset (List.mem_map_of_mem member)
  rcases List.mem_map.1 returned with ⟨execution, among, same⟩
  exact same ▸ executed execution among

theorem OfDescriptor.within {descriptor : Descriptor} (runs : run.OfDescriptor place descriptor) :
    run.Within fun way => place <:+ way := by
  apply runs.covers.within
  · intro node member
    exact Descriptor.suffix_of_mem_nodes member
  · intro start member
    rcases runs.started start member with ⟨edge, below⟩
    exact suffix_of_cons_suffix below

theorem OfTrigger.within {trigger : Trigger} (runs : run.OfTrigger place trigger) :
    run.Within fun way => place <:+ way :=
  runs.covers.within (fun _ member => Trigger.suffix_of_mem_nodes member) runs.started

theorem OfList.within {index : Nat} {descriptors : List Descriptor}
    (runs : run.OfList place index descriptors) : run.Within (BelowList place index) :=
  runs.covers.within (fun _ member => Descriptor.belowList_of_mem_listNodes member) runs.started

/-! ### Descriptors -/

theorem within_ofExecution (execution : Execution) :
    (Run.ofExecution execution).Within fun way => way = execution.place := by
  refine ⟨?_, nofun, nofun⟩
  intro other member
  rw [List.mem_singleton.1 member]

theorem OfDescriptor.alone {descriptor : Descriptor} {execution : Execution}
    (executed : execution.Of ⟨place, descriptor⟩)
    (stops : descriptor.next? (Edge.after execution.outcome) = none) :
    ((Run.ofExecution execution).returnedAt place).OfDescriptor place descriptor := by
  have atPlace : execution.place = place := executed.place
  have here : ((Run.ofExecution execution).returnedAt place).Within fun way => way = place := by
    refine ⟨?_, nofun, ?_⟩
    · intro other member
      rw [List.mem_singleton.1 member, atPlace]
    · intro entry member
      rw [List.mem_singleton.1 member]
  have elsewhere : ∀ {edge below}, edge :: place <:+ below →
      ((Run.ofExecution execution).returnedAt place).Within fun way => ¬below <:+ way := by
    intro edge below under
    apply here.mono
    intro way same above
    rw [same] at above
    exact not_cons_suffix (List.suffix_refl place) (under.trans above)
  refine ⟨⟨⟨[⟨place, descriptor⟩], ?_, ?_⟩, ?_, ?_⟩, ?_, nofun, ?_⟩
  · rw [Descriptor.nodes_eq]
    exact (List.nil_sublist _).cons_cons _
  · exact .cons executed .nil
  · change [place].Perm [execution.place]
    rw [atPlace]
  · intro node member
    rcases Descriptor.mem_nodes.1 member with rfl | ⟨edge, next, found, below⟩
    · refine ⟨?_, fun _ _ => nofun, ?_⟩
      · intro other among _ edge
        rw [List.mem_singleton.1 among, if_neg]
        · rfl
        · intro asked
          rw [asked.1, stops] at asked
          cases asked.2
      · intro edge next found
        exact .of_within (elsewhere (List.suffix_refl _))
    · exact .of_within (elsewhere (Trigger.suffix_of_mem_nodes below))
  · exact ⟨execution, List.mem_singleton_self _, atPlace⟩
  · intro outcome
    change (place, outcome) ∈ [(place, execution.outcome)] ↔ outcome = execution.outcome
    simp

section Continued

variable {descriptor : Descriptor} {execution : Execution} {next : Trigger} {edge : Edge}

/-- Below the edge that is taken, a descriptor logs what its continuation logs. -/
theorem agrees_continued (edge : Edge) (run : Run) (atPlace : execution.place = place) :
    run.Agrees ((run.after (.ofExecution execution)).returnedAt place) (edge :: place) := by
  have above : ¬edge :: place <:+ place := not_cons_suffix (List.suffix_refl place)
  apply Agrees.trans (Agrees.after_of_earlier run _) (Agrees.returnedAt _ above)
  apply (within_ofExecution execution).mono
  intro way same
  rw [same, atPlace]
  exact above

/-- A descriptor logs at its place and below the edge that is taken. -/
theorem within_continued (atPlace : execution.place = place)
    (within : run.Within fun way => edge :: place <:+ way) :
    ((run.after (.ofExecution execution)).returnedAt place).Within fun way =>
      way = place ∨ edge :: place <:+ way := by
  refine ⟨?_, ?_, ?_⟩
  · intro other member
    rcases List.mem_cons.1 member with rfl | later
    · exact Or.inl atPlace
    · exact Or.inr (within.executed other later)
  · intro start member
    exact Or.inr (within.started start member)
  · intro entry member
    rcases List.mem_append.1 member with earlier | last
    · exact Or.inr (within.returned entry earlier)
    · rw [List.mem_singleton.1 last]
      exact Or.inl rfl

/-- Below the other edge it logs nothing. -/
theorem not_below_other (atPlace : execution.place = place)
    (within : run.Within fun way => edge :: place <:+ way) {side : Edge} (other : side ≠ edge)
    {below : List Edge} (under : side :: place <:+ below) :
    ((run.after (.ofExecution execution)).returnedAt place).Within fun way =>
      ¬below <:+ way := by
  apply (within_continued atPlace within).mono
  intro way inside outside
  rcases inside with rfl | inside
  · exact not_cons_suffix (List.suffix_refl way) (under.trans outside)
  · exact other (eq_of_suffix_of_suffix (under.trans outside) inside)

/-- The descriptor itself: of its continuations only the one that is asked for is started. -/
theorem heeds_continued (executed : execution.Of ⟨place, descriptor⟩)
    (goesOn : descriptor.next? (Edge.after execution.outcome) = some next)
    (runs : run.OfTrigger (Edge.after execution.outcome :: place) next) :
    ((run.after (.ofExecution execution)).returnedAt place).Heeds ⟨place, descriptor⟩ := by
  have atPlace : execution.place = place := executed.place
  refine ⟨?_, ?_, ?_⟩
  · intro other member same side
    have isRoot : other = execution := by
      rcases List.mem_cons.1 member with root | later
      · exact root
      · have under := runs.within.executed other later
        rw [same] at under
        exact (not_cons_suffix (List.suffix_refl place) under).elim
    rw [isRoot]
    by_cases taken : side = Edge.after execution.outcome
    · rw [if_pos ⟨taken, by rw [taken, goesOn]; rfl⟩, taken]
      exact runs.once
    · rw [if_neg fun asked => taken asked.1]
      apply List.count_eq_zero_of_not_mem
      intro started
      exact taken (eq_of_suffix_of_suffix (List.suffix_refl _) (runs.started _ started))
  · intro idle
    exact (idle ⟨execution, List.mem_cons_self, atPlace⟩).elim
  · intro side found isNext
    by_cases taken : side = Edge.after execution.outcome
    · subst taken
      rw [goesOn, Option.some.injEq] at isNext
      subst isNext
      exact runs.runs.of_agrees (agrees_continued _ run atPlace)
    · exact .of_within (not_below_other atPlace runs.within taken (List.suffix_refl _))

theorem OfDescriptor.continued (executed : execution.Of ⟨place, descriptor⟩)
    (goesOn : descriptor.next? (Edge.after execution.outcome) = some next)
    (runs : run.OfTrigger (Edge.after execution.outcome :: place) next) :
    ((run.after (.ofExecution execution)).returnedAt place).OfDescriptor place descriptor := by
  have atPlace : execution.place = place := executed.place
  rcases runs.covers.order with ⟨taken, sublist, pairs⟩
  refine ⟨⟨⟨⟨place, descriptor⟩ :: taken, ?_, .cons executed pairs⟩, ?_, ?_⟩, ?_, ?_, ?_⟩
  · rw [Descriptor.nodes_eq]
    apply List.Sublist.cons_cons
    apply sublist.trans
    exact Descriptor.sublist_nextNodes goesOn place
  · change ((run.returned ++ [(place, run.outcome)]).map Prod.fst).Perm
      (execution.place :: run.executed.map Execution.place)
    rw [List.map_append, atPlace]
    exact (List.perm_append_singleton place _).trans (runs.covers.returns.cons place)
  · intro node member
    rcases Descriptor.mem_nodes.1 member with rfl | ⟨side, found, isNext, below⟩
    · exact heeds_continued executed goesOn runs
    · have under := Trigger.suffix_of_mem_nodes below
      by_cases taken : side = Edge.after execution.outcome
      · subst taken
        rw [goesOn, Option.some.injEq] at isNext
        subst isNext
        exact (runs.covers.heeds node below).of_agrees_at
          ((agrees_continued _ run atPlace).mono under)
      · exact .of_within (not_below_other atPlace runs.within taken under)
  · exact ⟨execution, List.mem_cons_self, atPlace⟩
  · intro start member
    exact ⟨_, runs.started start member⟩
  · intro outcome
    change (place, outcome) ∈ run.returned ++ [(place, run.outcome)] ↔ outcome = run.outcome
    rw [List.mem_append]
    constructor
    · intro member
      rcases member with earlier | last
      · have under := runs.within.returned _ earlier
        exact (not_cons_suffix (List.suffix_refl place) under).elim
      · simpa using last
    · intro same
      exact Or.inr (by simp [same])

end Continued

/-! ### Triggers -/

/-- Noting that a trigger is started adds nothing below its descriptors. -/
theorem Covers.startedAt {nodes : List Node} (covers : run.Covers nodes)
    (below : ∀ node ∈ nodes, place <:+ node.place) : (run.startedAt place).Covers nodes := by
  refine ⟨covers.order, covers.returns, ?_⟩
  intro node member
  apply (covers.heeds node member).of_agrees
  · intro execution _
    exact Iff.rfl
  · intro edge
    exact Agrees.startedAt run (not_cons_suffix (below node member))

theorem count_startedAt (fresh : place ∉ run.started) :
    (run.startedAt place).started.count place = 1 := by
  change (place :: run.started).count place = 1
  rw [List.count_cons_self, List.count_eq_zero_of_not_mem fresh]

theorem OfTrigger.single {descriptor : Descriptor} (runs : run.OfDescriptor place descriptor) :
    (run.startedAt place).OfTrigger place (.single descriptor) := by
  have nodes := Trigger.nodes_single place descriptor
  refine ⟨?_, ⟨?_, ?_⟩, ?_, ?_⟩
  · rw [nodes]
    exact runs.covers.startedAt fun node member => Descriptor.suffix_of_mem_nodes member
  · intro first isFirst
    cases isFirst
    exact ⟨fun _ => List.mem_cons_self, fun _ => runs.executes⟩
  · intro index inside
    exact (Nat.not_lt_zero _ inside).elim
  · apply count_startedAt
    intro again
    rcases runs.started place again with ⟨edge, below⟩
    exact not_cons_suffix (List.suffix_refl place) below
  · intro start member
    rcases List.mem_cons.1 member with rfl | later
    · exact List.suffix_refl _
    · exact runs.within.started start later

theorem OfTrigger.chain {descriptors : List Descriptor} (runs : run.OfList place 0 descriptors) :
    (run.startedAt place).OfTrigger place (.chain descriptors) := by
  have nodes := Trigger.nodes_chain place descriptors
  refine ⟨?_, ⟨?_, ?_⟩, ?_, ?_⟩
  · rw [nodes]
    apply runs.covers.startedAt
    intro node member
    exact (Descriptor.belowList_of_mem_listNodes member).suffix
  · intro first isFirst
    cases descriptors with
    | nil => cases isFirst
    | cons descriptor rest =>
        cases isFirst
        exact ⟨fun _ => List.mem_cons_self, fun _ => runs.begins.2 (List.cons_ne_nil _ _)⟩
  · intro index inside
    apply runs.advances index (Nat.zero_le index)
    rw [Nat.zero_add]
    exact inside
  · apply count_startedAt
    intro again
    rcases runs.started place again with ⟨position, -, below⟩
    exact not_cons_suffix (List.suffix_refl place) below
  · intro start member
    rcases List.mem_cons.1 member with rfl | later
    · exact List.suffix_refl _
    · exact (runs.started start later).suffix

/-! ### Lists -/

theorem OfList.nil (outcome : Outcome) (place : List Edge) (index : Nat) :
    (⟨outcome, [], [], []⟩ : Run).OfList place index [] := by
  refine ⟨⟨⟨[], ?_, .nil⟩, .refl _, ?_⟩, nofun, ?_, ?_⟩
  · exact List.nil_sublist _
  · intro node member
    rw [Descriptor.listNodes] at member
    cases member
  · constructor
    · intro executes
      rcases executes with ⟨execution, member, -⟩
      cases member
    · intro nonempty
      exact (nonempty rfl).elim
  · intro position after inside
    rw [List.length_nil] at inside
    omega

variable {index : Nat} {descriptor : Descriptor} {rest : List Descriptor}

/-- An item logs nothing below those that come after it. -/
theorem OfDescriptor.not_below_later (runs : run.OfDescriptor (.item index :: place) descriptor)
    {below : List Edge} (later : BelowList place (index + 1) below) :
    run.Within fun way => ¬below <:+ way := by
  apply runs.within.mono
  intro way inside outside
  rcases later with ⟨position, after, under⟩
  exact not_belowList inside ⟨position, after, under.trans outside⟩

theorem OfList.not_below_earlier (runs : run.OfList place (index + 1) rest)
    {below : List Edge} (earlier : .item index :: place <:+ below) :
    run.Within fun way => ¬below <:+ way := by
  apply runs.within.mono
  intro way inside outside
  exact not_belowList (earlier.trans outside) inside

theorem OfList.stopped (runs : run.OfDescriptor (.item index :: place) descriptor)
    {fault : Fault} (failed : run.outcome = .error fault) :
    run.OfList place index (descriptor :: rest) := by
  have nodes := Descriptor.listNodes_cons place index descriptor rest
  have idle : ∀ position, index < position → ¬run.Executes (.item position :: place) := by
    intro position after
    apply (runs.not_below_later ⟨position, after, List.suffix_refl _⟩).not_executes
    exact fun outside => outside (List.suffix_refl _)
  have fails : ¬run.Succeeds (.item index :: place) := by
    intro succeeds
    rcases succeeds with ⟨output, member⟩
    have same := (runs.returned _).1 member
    rw [failed] at same
    cases same
  rcases runs.covers.order with ⟨taken, sublist, pairs⟩
  refine ⟨⟨⟨taken, ?_, pairs⟩, runs.covers.returns, ?_⟩, ?_, ?_, ?_⟩
  · rw [nodes]
    exact sublist.trans (List.sublist_append_left _ _)
  · intro node member
    rw [nodes] at member
    rcases List.mem_append.1 member with here | later
    · exact runs.covers.heeds node here
    · exact .of_within (runs.not_below_later (Descriptor.belowList_of_mem_listNodes later))
  · intro start member
    exact ⟨index, Nat.le_refl index, runs.within.started start member⟩
  · exact ⟨fun _ => List.cons_ne_nil _ _, fun _ => runs.executes⟩
  · intro position after inside
    constructor
    · intro executes
      exact (idle (position + 1) (by omega) executes).elim
    · intro both
      rcases Nat.lt_or_eq_of_le after with later | same
      · exact (idle position later both.1).elim
      · subst same
        exact (fails both.2).elim

theorem OfList.cons {following : Run}
    (runs : run.OfDescriptor (.item index :: place) descriptor)
    {output : Option Json} (succeeded : run.outcome = .ok output)
    (goesOn : following.OfList place (index + 1) rest) :
    (following.after run).OfList place index (descriptor :: rest) := by
  have nodes := Descriptor.listNodes_cons place index descriptor rest
  have ofFirst : ∀ {below}, .item index :: place <:+ below →
      run.Agrees (following.after run) below := by
    intro below earlier
    exact .after_of_later run (goesOn.not_below_earlier earlier)
  have ofRest : ∀ {below}, BelowList place (index + 1) below →
      following.Agrees (following.after run) below := by
    intro below later
    exact .after_of_earlier following (runs.not_below_later later)
  have itself : ∀ position, .item position :: place <:+ .item position :: place :=
    fun position => List.suffix_refl _
  have later : ∀ position, index < position →
      BelowList place (index + 1) (.item position :: place) :=
    fun position after => ⟨position, after, itself position⟩
  have first : (following.after run).Executes (.item index :: place) :=
    ((ofFirst (itself index)).executes (itself index)).1 runs.executes
  rcases runs.covers.order with ⟨taken, sublist, pairs⟩
  rcases goesOn.covers.order with ⟨others, othersSublist, othersPairs⟩
  refine ⟨⟨⟨taken ++ others, ?_, ?_⟩, ?_, ?_⟩, ?_, ?_, ?_⟩
  · rw [nodes]
    exact sublist.append othersSublist
  · exact List.rel_append pairs othersPairs
  · change ((run.returned ++ following.returned).map Prod.fst).Perm
      ((run.executed ++ following.executed).map Execution.place)
    rw [List.map_append, List.map_append]
    exact runs.covers.returns.append goesOn.covers.returns
  · intro node member
    rw [nodes] at member
    rcases List.mem_append.1 member with here | after
    · exact (runs.covers.heeds node here).of_agrees_at
        (ofFirst (Descriptor.suffix_of_mem_nodes here))
    · exact (goesOn.covers.heeds node after).of_agrees_at
        (ofRest (Descriptor.belowList_of_mem_listNodes after))
  · intro start member
    rcases List.mem_append.1 member with here | after
    · exact ⟨index, Nat.le_refl index, runs.within.started start here⟩
    · exact (goesOn.started start after).mono
  · exact ⟨fun _ => List.cons_ne_nil _ _, fun _ => first⟩
  · intro position after inside
    rw [List.length_cons] at inside
    rcases Nat.lt_or_eq_of_le after with further | same
    · rw [← (ofRest (later (position + 1) (by omega))).executes (itself _),
        ← (ofRest (later position further)).executes (itself _),
        ← (ofRest (later position further)).succeeds (itself _)]
      exact goesOn.advances position further (by omega)
    · subst same
      have returned : (following.after run).Succeeds (.item index :: place) := by
        rw [← (ofFirst (itself index)).succeeds (itself index)]
        exact ⟨output, (runs.returned _).2 succeeded.symm⟩
      have next : (following.after run).Executes (.item (index + 1) :: place) := by
        rw [← (ofRest (later (index + 1) (by omega))).executes (itself _)]
        apply goesOn.begins.2
        intro nothing
        rw [nothing, List.length_nil] at inside
        omega
      exact ⟨fun _ => ⟨first, returned⟩, fun _ => next⟩

end Run

/-! ### Trees -/

theorem of_executes {runSteps : Runner} {place : List Edge} {scope : Scope}
    {descriptor : Descriptor} {engine next : Engine} {execution : Execution}
    (executes : execute runSteps place scope descriptor.action descriptor.onError.isSome engine =
      (execution, next)) : execution.Of ⟨place, descriptor⟩ := by
  rw [execute_eq] at executes
  cases executes
  exact ⟨rfl, ⟨_, rfl⟩, rfl⟩

theorem runCases_covers (runSteps : Runner) :
    RunCases runSteps
      (fun descriptor place _ _ run _ => run.OfDescriptor place descriptor)
      (fun trigger place _ _ run _ => run.OfTrigger place trigger)
      (fun descriptors place _ index _ run _ => run.OfList place index descriptors) where
  stops executes stops := .alone (of_executes executes) stops
  continues executes goesOn runs := .continued (of_executes executes) goesOn runs
  single runs := .single runs
  chain runs := .chain runs
  nil place _ index output _ := .nil (.ok output) place index
  cons runs succeeded goesOn := .cons runs succeeded goesOn
  fails runs failed := .stopped runs failed

theorem treeCases_covers (runSteps : Runner) :
    TreeCases
      (fun descriptor => ∀ place scope engine,
        (descriptor.run runSteps place scope engine).1.OfDescriptor place descriptor)
      (fun trigger => ∀ place scope engine,
        (trigger.run runSteps place scope engine).1.OfTrigger place trigger)
      (fun descriptors => ∀ place scope index last engine,
        (Descriptor.runList runSteps place scope index last descriptors engine).1.OfList place
          index descriptors) :=
  (runCases_covers runSteps).tree

/-- What is promised of a run of a trigger. -/
structure Run.Follows (run : Run) (trigger : Trigger) : Prop where
  /-- The executed descriptors are some of the tree's, in document order. -/
  order : ∃ taken, taken.Sublist (trigger.nodes []) ∧
    List.Forall₂ Execution.Of run.executed taken
  /-- No descriptor is executed twice. -/
  once : (run.executed.map Execution.place).Nodup
  /-- The trigger itself is started once. -/
  starts : run.started.count [] = 1
  /-- After a success, the continuation for it is started once, the other one never. -/
  succeeded : ∀ node ∈ trigger.nodes [], ∀ execution ∈ run.executed,
    execution.place = node.place → ∀ output, execution.outcome = .ok output →
      run.started.count (.onSuccess :: node.place) =
          (if node.descriptor.onSuccess.isSome then 1 else 0) ∧
        run.started.count (.onError :: node.place) = 0
  /-- After a failure, the continuation for it is started once, the other one never. -/
  failed : ∀ node ∈ trigger.nodes [], ∀ execution ∈ run.executed,
    execution.place = node.place → ∀ fault, execution.outcome = .error fault →
      run.started.count (.onError :: node.place) =
          (if node.descriptor.onError.isSome then 1 else 0) ∧
        run.started.count (.onSuccess :: node.place) = 0
  /-- A descriptor that is not executed starts nothing. -/
  waits : ∀ node ∈ trigger.nodes [], ¬run.Executes node.place →
    ∀ edge, edge :: node.place ∉ run.started
  /-- The trigger and every continuation in it: what is started begins, and a list goes on
  exactly after the items that were executed and returned without a fault. -/
  runs : run.RunsAt [] trigger ∧ ∀ node ∈ trigger.nodes [], ∀ edge next,
    node.descriptor.next? edge = some next → run.RunsAt (edge :: node.place) next
  /-- The descriptors that return are those that were executed. -/
  returns : (run.returned.map Prod.fst).Perm (run.executed.map Execution.place)

theorem Run.OfTrigger.follows {run : Run} {trigger : Trigger} (whole : run.OfTrigger [] trigger) :
    run.Follows trigger := by
  refine ⟨whole.covers.order, ?_, whole.once, ?_, ?_, ?_, ⟨whole.runs, ?_⟩, whole.covers.returns⟩
  · rcases whole.covers.order with ⟨taken, sublist, pairs⟩
    rw [map_place_of_forall₂ pairs]
    exact (trigger.nodup_places []).sublist (sublist.map Node.place)
  · intro node member execution among same output outcome
    have continues := (whole.covers.heeds node member).continues execution among same
    rw [outcome] at continues
    refine ⟨?_, ?_⟩
    · rw [continues]
      simp [Edge.after, Descriptor.next?]
    · rw [continues]
      simp [Edge.after]
  · intro node member execution among same fault outcome
    have continues := (whole.covers.heeds node member).continues execution among same
    rw [outcome] at continues
    refine ⟨?_, ?_⟩
    · rw [continues]
      simp [Edge.after, Descriptor.next?]
    · rw [continues]
      simp [Edge.after]
  · intro node member
    exact (whole.covers.heeds node member).waits
  · intro node member
    exact (whole.covers.heeds node member).runs

/-- Every run follows its trigger, whatever collaborators do and from whatever state. -/
theorem run_follows (runSteps : Runner) (trigger : Trigger) (fields : Fields)
    (engine : Engine) : (engine.run runSteps trigger fields).1.Follows trigger :=
  (Trigger.induction (treeCases_covers runSteps) trigger [] { fields } engine).follows

end Engine

end Storyboard
