import Mathlib.Data.List.Forall2
import Storyboard.Proofs.Run.Places
/-!
# What a run logs

A run logs the actions that it executed, the triggers that it started and the descriptors
that returned. What is said here of a place depends only on what is logged at that place and
below, so it stays true when the run goes on elsewhere.

Main definitions: `Run.Heeds` says that a run did at a descriptor what the descriptor asks
for, `Run.RunsAt` the same of a trigger.
-/

namespace Storyboard

open Engine

/-- The place of the first descriptor of a trigger, if there is one. -/
def Trigger.first? (place : List Edge) : Trigger → Option (List Edge)
  | .single _ => some place
  | .chain [] => none
  | .chain (_ :: _) => some (.item 0 :: place)

/-- The number of items that a trigger lists. -/
def Trigger.items : Trigger → Nat
  | .single _ => 0
  | .chain descriptors => descriptors.length

namespace Engine

/-- The descriptor of a node was executed: its action, resolved, and with its own handling of
failures. -/
structure Execution.Of (execution : Execution) (node : Node) : Prop where
  place : execution.place = node.place
  action : ∃ scopes, execution.action = node.descriptor.action.resolve scopes
  handled : execution.handled = node.descriptor.onError.isSome

namespace Run

def Executes (run : Run) (place : List Edge) : Prop :=
  ∃ execution ∈ run.executed, execution.place = place

/-- The descriptor at a place returned without a fault, its continuation included. -/
def Succeeds (run : Run) (place : List Edge) : Prop :=
  ∃ output, (place, .ok output) ∈ run.returned

/-- What a run does with a trigger at a place. Its first descriptor is executed if and only
if it is started, and an item of a list follows if and only if the one before it was executed
and returned without a fault. -/
structure RunsAt (run : Run) (place : List Edge) (trigger : Trigger) : Prop where
  begins : ∀ first ∈ trigger.first? place, run.Executes first ↔ place ∈ run.started
  advances : ∀ index, index + 1 < trigger.items →
    (run.Executes (.item (index + 1) :: place) ↔
      run.Executes (.item index :: place) ∧ run.Succeeds (.item index :: place))

/-- What a run does with a descriptor. Once it is executed, the continuation that its outcome
asks for is started, once, and the other one is not. If it is not executed neither is. -/
structure Heeds (run : Run) (node : Node) : Prop where
  continues : ∀ execution ∈ run.executed, execution.place = node.place → ∀ edge,
    run.started.count (edge :: node.place) =
      if edge = Edge.after execution.outcome ∧ (node.descriptor.next? edge).isSome then 1 else 0
  waits : ¬run.Executes node.place → ∀ edge, edge :: node.place ∉ run.started
  runs : ∀ edge next, node.descriptor.next? edge = some next →
    run.RunsAt (edge :: node.place) next

/-- Everything that a run logs lies in a region. -/
structure Within (run : Run) (region : List Edge → Prop) : Prop where
  executed : ∀ execution ∈ run.executed, region execution.place
  started : ∀ start ∈ run.started, region start
  returned : ∀ entry ∈ run.returned, region entry.1

/-- Two runs log the same at a place and below. -/
structure Agrees (run other : Run) (place : List Edge) : Prop where
  executed : ∀ execution, place <:+ execution.place →
    (execution ∈ run.executed ↔ execution ∈ other.executed)
  started : ∀ start, place <:+ start → run.started.count start = other.started.count start
  returned : ∀ entry, place <:+ entry.1 → (entry ∈ run.returned ↔ entry ∈ other.returned)

variable {run other last : Run} {place way : List Edge} {region : List Edge → Prop}

theorem Within.mono {wider : List Edge → Prop} (within : run.Within region)
    (included : ∀ way, region way → wider way) : run.Within wider :=
  ⟨fun execution member => included _ (within.executed execution member),
    fun start member => included _ (within.started start member),
    fun entry member => included _ (within.returned entry member)⟩

theorem Within.not_executes (within : run.Within region) (outside : ¬region way) :
    ¬run.Executes way := by
  intro executes
  rcases executes with ⟨execution, member, rfl⟩
  exact outside (within.executed execution member)

namespace Agrees

theorem mono (agrees : run.Agrees other place) (below : place <:+ way) :
    run.Agrees other way :=
  ⟨fun execution under => agrees.executed execution (below.trans under),
    fun start under => agrees.started start (below.trans under),
    fun entry under => agrees.returned entry (below.trans under)⟩

theorem trans (first : run.Agrees other place) (second : other.Agrees last place) :
    run.Agrees last place :=
  ⟨fun execution under => (first.executed execution under).trans
      (second.executed execution under),
    fun start under => (first.started start under).trans (second.started start under),
    fun entry under => (first.returned entry under).trans (second.returned entry under)⟩

theorem startedAt (run : Run) (outside : ¬place <:+ way) :
    run.Agrees (run.startedAt way) place := by
  refine ⟨fun _ _ => Iff.rfl, ?_, fun _ _ => Iff.rfl⟩
  intro start below
  have apart : way ≠ start := by
    intro same
    exact outside (same ▸ below)
  exact (List.count_cons_of_ne apart).symm

theorem returnedAt (run : Run) (outside : ¬place <:+ way) :
    run.Agrees (run.returnedAt way) place := by
  refine ⟨fun _ _ => Iff.rfl, fun _ _ => rfl, ?_⟩
  intro entry below
  change _ ↔ entry ∈ run.returned ++ [(way, run.outcome)]
  rw [List.mem_append, List.mem_singleton]
  constructor
  · exact Or.inl
  · intro member
    rcases member with old | rfl
    · exact old
    · exact (outside below).elim

/-- A run that goes on elsewhere does not matter. -/
theorem after_of_later (earlier : Run) {later : Run}
    (elsewhere : later.Within fun way => ¬place <:+ way) :
    earlier.Agrees (later.after earlier) place := by
  refine ⟨?_, ?_, ?_⟩
  · intro execution below
    change _ ↔ execution ∈ earlier.executed ++ later.executed
    rw [List.mem_append]
    exact ⟨Or.inl, fun member =>
      member.resolve_right fun new => elsewhere.executed execution new below⟩
  · intro start below
    change _ = (earlier.started ++ later.started).count start
    rw [List.count_append]
    have absent : start ∉ later.started := fun new => elsewhere.started start new below
    rw [List.count_eq_zero_of_not_mem absent, Nat.add_zero]
  · intro entry below
    change _ ↔ entry ∈ earlier.returned ++ later.returned
    rw [List.mem_append]
    exact ⟨Or.inl, fun member =>
      member.resolve_right fun new => elsewhere.returned entry new below⟩

theorem after_of_earlier (later : Run) {earlier : Run}
    (elsewhere : earlier.Within fun way => ¬place <:+ way) :
    later.Agrees (later.after earlier) place := by
  refine ⟨?_, ?_, ?_⟩
  · intro execution below
    change _ ↔ execution ∈ earlier.executed ++ later.executed
    rw [List.mem_append]
    exact ⟨Or.inr, fun member =>
      member.resolve_left fun old => elsewhere.executed execution old below⟩
  · intro start below
    change _ = (earlier.started ++ later.started).count start
    rw [List.count_append]
    have absent : start ∉ earlier.started := fun old => elsewhere.started start old below
    rw [List.count_eq_zero_of_not_mem absent, Nat.zero_add]
  · intro entry below
    change _ ↔ entry ∈ earlier.returned ++ later.returned
    rw [List.mem_append]
    exact ⟨Or.inr, fun member =>
      member.resolve_left fun old => elsewhere.returned entry old below⟩

theorem executes (agrees : run.Agrees other place) (below : place <:+ way) :
    run.Executes way ↔ other.Executes way := by
  constructor
  · intro executes
    rcases executes with ⟨execution, member, rfl⟩
    exact ⟨execution, (agrees.executed execution below).1 member, rfl⟩
  · intro executes
    rcases executes with ⟨execution, member, rfl⟩
    exact ⟨execution, (agrees.executed execution below).2 member, rfl⟩

theorem succeeds (agrees : run.Agrees other place) (below : place <:+ way) :
    run.Succeeds way ↔ other.Succeeds way := by
  constructor
  · intro succeeds
    rcases succeeds with ⟨output, member⟩
    exact ⟨output, (agrees.returned _ below).1 member⟩
  · intro succeeds
    rcases succeeds with ⟨output, member⟩
    exact ⟨output, (agrees.returned _ below).2 member⟩

theorem mem_started (agrees : run.Agrees other place) (below : place <:+ way) :
    way ∈ run.started ↔ way ∈ other.started := by
  rw [← List.count_pos_iff, ← List.count_pos_iff, agrees.started way below]

end Agrees

theorem suffix_of_first? {trigger : Trigger} {first : List Edge}
    (isFirst : first ∈ trigger.first? place) : place <:+ first := by
  cases trigger with
  | single descriptor =>
      cases isFirst
      exact List.suffix_refl place
  | chain descriptors =>
      cases descriptors with
      | nil => cases isFirst
      | cons descriptor rest =>
          cases isFirst
          exact List.suffix_cons _ place

theorem RunsAt.of_agrees {trigger : Trigger} (runs : run.RunsAt place trigger)
    (agrees : run.Agrees other place) : other.RunsAt place trigger := by
  refine ⟨?_, ?_⟩
  · intro first isFirst
    rw [← agrees.executes (suffix_of_first? isFirst),
      ← agrees.mem_started (List.suffix_refl place)]
    exact runs.begins first isFirst
  · intro index inside
    rw [← agrees.executes (List.suffix_cons _ place), ← agrees.executes (List.suffix_cons _ place),
      ← agrees.succeeds (List.suffix_cons _ place)]
    exact runs.advances index inside

/-- A trigger where nothing happened was not started. -/
theorem RunsAt.of_within {trigger : Trigger} (elsewhere : run.Within fun way => ¬place <:+ way) :
    run.RunsAt place trigger := by
  have idle : ∀ {way}, place <:+ way → ¬run.Executes way := by
    intro way below
    exact elsewhere.not_executes fun outside => outside below
  refine ⟨?_, ?_⟩
  · intro first isFirst
    constructor
    · intro executes
      exact (idle (suffix_of_first? isFirst) executes).elim
    · intro started
      exact (elsewhere.started place started (List.suffix_refl place)).elim
  · intro index inside
    constructor
    · intro executes
      exact (idle (List.suffix_cons _ place) executes).elim
    · intro both
      exact (idle (List.suffix_cons _ place) both.1).elim

theorem Heeds.of_agrees {node : Node} (heeds : run.Heeds node)
    (here : ∀ execution, execution.place = node.place →
      (execution ∈ run.executed ↔ execution ∈ other.executed))
    (below : ∀ edge, run.Agrees other (edge :: node.place)) : other.Heeds node := by
  refine ⟨?_, ?_, ?_⟩
  · intro execution member atNode edge
    rw [← (below edge).started _ (List.suffix_refl _)]
    exact heeds.continues execution ((here execution atNode).2 member) atNode edge
  · intro idle edge started
    have idleBefore : ¬run.Executes node.place := by
      intro executes
      rcases executes with ⟨execution, member, atNode⟩
      exact idle ⟨execution, (here execution atNode).1 member, atNode⟩
    exact heeds.waits idleBefore edge
      (((below edge).mem_started (List.suffix_refl _)).2 started)
  · intro edge next found
    exact (heeds.runs edge next found).of_agrees (below edge)

theorem Heeds.of_agrees_at {node : Node} (heeds : run.Heeds node)
    (agrees : run.Agrees other node.place) : other.Heeds node := by
  apply heeds.of_agrees
  · intro execution atNode
    exact agrees.executed execution (atNode ▸ List.suffix_refl _)
  · intro edge
    exact agrees.mono (List.suffix_cons edge node.place)

/-- At a descriptor where nothing happened there was nothing to do. -/
theorem Heeds.of_within {node : Node}
    (elsewhere : run.Within fun way => ¬node.place <:+ way) : run.Heeds node := by
  refine ⟨?_, ?_, ?_⟩
  · intro execution member atNode
    exact (elsewhere.executed execution member (atNode ▸ List.suffix_refl _)).elim
  · intro idle edge started
    exact elsewhere.started _ started (List.suffix_cons edge node.place)
  · intro edge next found
    apply RunsAt.of_within
    apply elsewhere.mono
    intro way apart below
    exact apart (suffix_of_cons_suffix below)

end Run

end Engine

end Storyboard
