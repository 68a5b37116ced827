import Storyboard.Proofs.Run.Sequence
/-!
# Scopes are lexical

What an action sees as the response and as the error comes from the actions that enclose it in
the tree of its own run, and of these from the nearest that has something to hand down. The
session data is that of the moment when the action starts, the field values are those of the
run.

Main result: `run_lexicalScopes`.
-/

namespace Storyboard

open Engine

namespace Engine

/-- What continuations see of the action's response, if it succeeded with one. -/
def Execution.output? (execution : Execution) : Option Json :=
  match execution.outcome with
  | .ok output => output
  | .error _ => none

/-- What continuations see of the action's failure, if it failed. -/
def Execution.failure? (execution : Execution) : Option Json :=
  match execution.outcome with
  | .ok _ => none
  | .error fault => some fault.scopeValue

namespace Run

/-- An executed action whose continuation along an edge leads on to a place. -/
structure Encloses (run : Run) (edge : Edge) (place : List Edge) (ancestor : Execution) :
    Prop where
  executed : ancestor ∈ run.executed
  above : edge :: ancestor.place <:+ place

/-- What a place inherits along an edge: what is read off the nearest of the enclosing actions
off which something can be read, and nothing if there is none. -/
def Inherits (run : Run) (edge : Edge) (place : List Edge) (read : Execution → Option Json) :
    Option Json → Prop
  | some value =>
      ∃ ancestor, run.Encloses edge place ancestor ∧ read ancestor = some value ∧
        ∀ other, run.Encloses edge place other → (read other).isSome = true →
          other.place <:+ ancestor.place
  | none => ∀ other, run.Encloses edge place other → read other = none

/-- What an action at a place sees, the session aside. -/
structure Sees (run : Run) (fields : Fields) (place : List Edge) (scope : Scope) : Prop where
  fields : scope.fields = fields
  response : run.Inherits .onSuccess place Execution.output? scope.response
  error : run.Inherits .onError place Execution.failure? scope.error
  /-- The way to the place goes along continuations that were asked for. -/
  ancestors : ∀ edge way, edge :: way <:+ place → (∀ index, edge ≠ .item index) →
    ∃ ancestor ∈ run.executed, ancestor.place = way ∧ edge = Edge.after ancestor.outcome

variable {run : Run} {fields : Fields} {place : List Edge} {scope : Scope} {edge : Edge}
  {parent : Execution}

theorem Inherits.congr {other : List Edge} {read : Execution → Option Json}
    {value : Option Json} (inherits : run.Inherits edge place read value)
    (same : ∀ ancestor, run.Encloses edge other ancestor ↔ run.Encloses edge place ancestor) :
    run.Inherits edge other read value := by
  cases value with
  | none =>
      intro ancestor encloses
      exact inherits ancestor ((same ancestor).1 encloses)
  | some value =>
      rcases inherits with ⟨ancestor, encloses, reads, nearest⟩
      refine ⟨ancestor, (same ancestor).2 encloses, reads, ?_⟩
      intro further enclosing
      exact nearest further ((same further).1 enclosing)

theorem encloses_item {index : Nat} (continues : edge ≠ .item index) (ancestor : Execution) :
    run.Encloses edge (.item index :: place) ancestor ↔ run.Encloses edge place ancestor := by
  constructor
  · intro encloses
    rcases List.suffix_cons_iff.1 encloses.above with whole | above
    · exact (continues (List.cons.inj whole).1).elim
    · exact ⟨encloses.executed, above⟩
  · intro encloses
    exact ⟨encloses.executed, encloses.above.trans (List.suffix_cons _ place)⟩

theorem encloses_continuation {side : Edge} (executed : parent ∈ run.executed)
    (once : ∀ other ∈ run.executed, other.place = parent.place → other = parent)
    (ancestor : Execution) :
    run.Encloses edge (side :: parent.place) ancestor ↔
      edge = side ∧ ancestor = parent ∨ run.Encloses edge parent.place ancestor := by
  constructor
  · intro encloses
    rcases List.suffix_cons_iff.1 encloses.above with whole | above
    · rcases List.cons.inj whole with ⟨same, places⟩
      exact Or.inl ⟨same, once ancestor encloses.executed places⟩
    · exact Or.inr ⟨encloses.executed, above⟩
  · intro encloses
    rcases encloses with ⟨rfl, rfl⟩ | above
    · exact ⟨executed, List.suffix_refl _⟩
    · exact ⟨above.executed, above.above.trans (List.suffix_cons _ parent.place)⟩

/-- Along the edge of a continuation, its action hands down what can be read off it, or else
what it inherited itself. -/
theorem Inherits.continuation {read : Execution → Option Json} {value : Option Json}
    (inherits : run.Inherits edge parent.place read value) (executed : parent ∈ run.executed)
    (once : ∀ other ∈ run.executed, other.place = parent.place → other = parent) :
    run.Inherits edge (edge :: parent.place) read (read parent <|> value) := by
  have encloses : ∀ other, run.Encloses edge (edge :: parent.place) other ↔
      other = parent ∨ run.Encloses edge parent.place other := by
    intro other
    rw [encloses_continuation executed once, and_iff_right rfl]
  -- The parent is the nearest of all; if nothing can be read off it, it might as well be absent.
  cases reads : read parent with
  | some handed =>
      refine ⟨parent, (encloses parent).2 (Or.inl rfl), reads, ?_⟩
      intro other enclosing _
      rcases (encloses other).1 enclosing with rfl | above
      · exact List.suffix_refl _
      · exact suffix_of_cons_suffix above.above
  | none =>
      cases value with
      | some inherited =>
          rcases inherits with ⟨ancestor, above, readsAncestor, nearest⟩
          refine ⟨ancestor, (encloses ancestor).2 (Or.inr above), readsAncestor, ?_⟩
          intro other enclosing readsOther
          rcases (encloses other).1 enclosing with rfl | further
          · rw [reads] at readsOther
            cases readsOther
          · exact nearest other further readsOther
      | none =>
          intro other enclosing
          rcases (encloses other).1 enclosing with rfl | further
          · exact reads
          · exact inherits other further

namespace Sees

theorem root (run : Run) (fields : Fields) : run.Sees fields [] { fields } := by
  have nothing : ∀ edge way, ¬(edge :: way : List Edge) <:+ [] := by
    intro edge way above
    cases List.suffix_nil.1 above
  refine ⟨rfl, ?_, ?_, ?_⟩
  · intro other encloses
    exact (nothing _ _ encloses.above).elim
  · intro other encloses
    exact (nothing _ _ encloses.above).elim
  · intro edge way above
    exact (nothing edge way above).elim

theorem item (sees : run.Sees fields place scope) (index : Nat) :
    run.Sees fields (.item index :: place) scope := by
  refine ⟨sees.fields, ?_, ?_, ?_⟩
  · exact sees.response.congr (encloses_item nofun)
  · exact sees.error.congr (encloses_item nofun)
  · intro edge way above continues
    rcases List.suffix_cons_iff.1 above with whole | above
    · exact (continues index (List.cons.inj whole).1).elim
    · exact sees.ancestors edge way above continues

theorem continuation (sees : run.Sees fields parent.place parent.scope)
    (executed : parent ∈ run.executed)
    (once : ∀ other ∈ run.executed, other.place = parent.place → other = parent) :
    run.Sees fields (Edge.after parent.outcome :: parent.place)
      (parent.scope.after parent.outcome) := by
  have across : ∀ {edge side : Edge}, edge ≠ side → ∀ ancestor,
      run.Encloses edge (side :: parent.place) ancestor ↔
        run.Encloses edge parent.place ancestor := by
    intro edge side distinct ancestor
    rw [encloses_continuation executed once]
    exact or_iff_right fun same => distinct same.1
  have ancestors : ∀ edge way, edge :: way <:+ Edge.after parent.outcome :: parent.place →
      (∀ index, edge ≠ .item index) →
        ∃ ancestor ∈ run.executed, ancestor.place = way ∧
          edge = Edge.after ancestor.outcome := by
    intro edge way above continues
    rcases List.suffix_cons_iff.1 above with whole | above
    · rcases List.cons.inj whole with ⟨same, rfl⟩
      exact ⟨parent, executed, rfl, same⟩
    · exact sees.ancestors edge way above continues
  cases outcome : parent.outcome with
  | ok output =>
      rw [outcome] at ancestors
      refine ⟨sees.fields, ?_, ?_, ancestors⟩
      · have handed := sees.response.continuation executed once
        rw [Execution.output?, outcome] at handed
        exact handed
      · exact sees.error.congr (across nofun)
  | error fault =>
      rw [outcome] at ancestors
      refine ⟨sees.fields, ?_, ?_, ancestors⟩
      · exact sees.response.congr (across nofun)
      · have handed := sees.error.continuation executed once
        rw [Execution.failure?, outcome] at handed
        exact handed

end Sees

/-- The scope of an action is what can be seen at its place. The induction goes along the way
from the action to the trigger: each continuation sees what its action saw, and its outcome. -/
theorem Derives.sees {begun : List Edge → Prop}
    (derives : run.Derives (TopOf []) begun { fields })
    (distinct : (run.executed.map Execution.place).Nodup) (execution : Execution)
    (executed : execution ∈ run.executed) :
    run.Sees fields execution.place execution.scope := by
  induction length : execution.place.length using Nat.strongRecOn
    generalizing execution with
  | _ length ih =>
    subst length
    rcases derives.scopes execution executed with ⟨top, scope⟩ | ⟨parent, among, top, scope⟩
    · rw [scope]
      rcases top with place | ⟨index, place⟩
      · rw [place]
        exact .root run fields
      · rw [place]
        exact (Sees.root run fields).item index
    · -- The parent is nearer to the trigger, and its place tells it from all other actions.
      have once : ∀ other ∈ run.executed, other.place = parent.place → other = parent :=
        fun other member same => List.inj_on_of_nodup_map distinct member among same
      have shorter : parent.place.length < execution.place.length := by
        rcases top with place | ⟨index, place⟩
        · rw [place, List.length_cons]
          omega
        · rw [place, List.length_cons, List.length_cons]
          omega
      have continued := (ih _ shorter parent among rfl).continuation among once
      rw [scope]
      rcases top with place | ⟨index, place⟩
      · rw [place]
        exact continued
      · rw [place]
        exact continued.item index

end Run

/-- What is promised of the scopes of a run. -/
structure LexicalScopes (runSteps : Runner) (trigger : Trigger) (fields : Fields)
    (engine : Engine) (run : Run) : Prop where
  sees : ∀ execution ∈ run.executed, run.Sees fields execution.place execution.scope
  /-- An action starts on the engine that the earlier ones left, and its payload is resolved
  against the session data of that moment and what the action sees. -/
  resolves : ∀ earlier execution later, run.executed = earlier ++ execution :: later →
    ∃ before, Sequence runSteps (trigger.nodes []) engine earlier before ∧
      ∃ node ∈ trigger.nodes [], node.place = execution.place ∧
        (∃ after, execute runSteps node.place execution.scope node.descriptor.action
          node.descriptor.onError.isSome before = (execution, after)) ∧
        execution.action = node.descriptor.action.resolve
          { session := some before.context.session.data
            fields := some fields
            response := execution.scope.response
            error := execution.scope.error }

/-- The scopes of every run are lexical, whatever collaborators do and from whatever state. -/
theorem run_lexicalScopes (runSteps : Runner) (trigger : Trigger) (fields : Fields)
    (engine : Engine) :
    LexicalScopes runSteps trigger fields engine (engine.run runSteps trigger fields).1 := by
  have sequence := trigger.run_sequence runSteps [] { fields } engine
  have distinct :=
    (Trigger.run_induction (runCases_covers runSteps) trigger [] { fields } engine).follows.once
  have sees := (trigger.run_derives runSteps [] { fields } engine).sees distinct
  refine ⟨sees, ?_⟩
  intro earlier execution later executed
  have member : execution ∈ (engine.run runSteps trigger fields).1.executed := by
    rw [executed]
    exact List.mem_append_right _ List.mem_cons_self
  change (trigger.run runSteps [] { fields } engine).1.executed = _ at executed
  rw [executed] at sequence
  rcases sequence.split with ⟨before, first, second⟩
  cases second with
  | cons node scope among executes _ =>
      rcases execute_records executes with ⟨place, rfl, -, action⟩
      refine ⟨before, first, node, among, place.symm, ⟨_, executes⟩, ?_⟩
      rw [action, (sees execution member).fields]
      rfl

end Engine

end Storyboard
