import Mathlib.Logic.Relation
import Storyboard.Engine.Step
/-!
# Moves of an engine

Whatever happens to an engine is cut into moves. A move is a change that nothing comes
between: a write to the context together with the messages that tell of it, a load, a mark
in the history, bookkeeping. What every move keeps, every history keeps, however deep its
steps are nested.

Steps may be restricted to those whose requests to the library are allowed, in the scripts
that they hand to collaborators as well.
-/

namespace Storyboard

namespace Engine

/-- The request to the library that a step is. -/
def Step.request? : Step → Option Library.Step
  | .library request => some request
  | _ => none

/-- The scripts that a step hands to collaborators. -/
def Step.scripts : Step → List (List Step)
  | .setReplies _ replies => replies.filterMap Reply.during
  | .registry (.register _ handler) => handler.during.toList
  | _ => []

/-- Every request to the library that comes of a step is allowed. -/
inductive Step.Obeys (allowed : Library.Step → Prop) : Step → Prop where
  | intro {step : Step} (request : ∀ request ∈ step.request?, allowed request)
      (scripts : ∀ script ∈ step.scripts, ∀ inner ∈ script, Step.Obeys allowed inner) :
      Step.Obeys allowed step

/-- A step of a script is smaller than the step that hands the script over. -/
theorem Step.sizeOf_lt_of_mem_scripts {step inner : Step} {script : List Step}
    (among : script ∈ step.scripts) (member : inner ∈ script) : sizeOf inner < sizeOf step := by
  have smaller := List.sizeOf_lt_of_mem member
  cases step with
  | setReplies endpoint replies =>
      obtain ⟨reply, listed, during⟩ := List.mem_filterMap.1 among
      have listed := List.sizeOf_lt_of_mem listed
      have within : sizeOf script < sizeOf reply := by
        cases reply
        cases during
        simp
        omega
      simp only [setReplies.sizeOf_spec]
      omega
  | registry request =>
      cases request with
      | register name handler =>
          have within : sizeOf script < sizeOf handler := by
            have during := Option.mem_toList.1 among
            cases handler
            cases during
            simp
            omega
          simp only [registry.sizeOf_spec, Registry.Request.register.sizeOf_spec]
          omega
      | _ => cases among
  | _ => cases among

def anyRequest : Library.Step → Prop := fun _ => True

theorem Step.obeys_any (step : Step) : step.Obeys anyRequest :=
  .intro (fun _ _ => trivial) fun _ among inner member =>
    have := Step.sizeOf_lt_of_mem_scripts among member
    Step.obeys_any inner
termination_by sizeOf step

/-- Every request to the library that comes of a collaborator's script, if it has one, is
allowed. -/
def ScriptObeys (allowed : Library.Step → Prop) (script : Option (List Step)) : Prop :=
  ∀ steps ∈ script, ∀ step ∈ steps, step.Obeys allowed

/-- The scripts of an engine's collaborators obey. -/
structure Obeys (allowed : Library.Step → Prop) (engine : Engine) : Prop where
  handlers : ∀ entry ∈ engine.registry, ScriptObeys allowed entry.2.during
  replies : ∀ entry ∈ engine.replies, ∀ reply ∈ entry.2, ScriptObeys allowed reply.during

theorem obeys_any (engine : Engine) : engine.Obeys anyRequest :=
  ⟨fun _ _ _ _ step _ => step.obeys_any, fun _ _ _ _ _ _ step _ => step.obeys_any⟩

/-- The answer of a step that asks for the screen is the screen of that moment. -/
def Happening.Truthful (engine : Engine) : Happening → Prop
  | .answered _ (.screen result) => ∃ fields, result = (engine.currentScreen fields).1
  | _ => True

/-- Whether a saved context was restored. -/
def Happening.restores : Happening → Bool
  | .answered (.restore _) .done => true
  | _ => false

/-- A change that nothing comes between. -/
inductive Move (allowed : Library.Step → Prop) : Engine → Engine → Prop where
  /-- Bookkeeping. -/
  | kept {engine : Engine} (phases : List Phase) (calls : List (Call Entry)) (observed : Nat)
      (listening : Bool) (reads : List String) :
      Move allowed engine
        { engine with
          phases, calls, observed, listening, library := { engine.library with reads } }
  /-- Other collaborators are at hand. -/
  | hosted {engine : Engine} (registry : Registry Step) (replies : Table (List (Reply Step)))
      (obeys : engine.Obeys allowed → Obeys allowed { engine with registry, replies }) :
      Move allowed engine { engine with registry, replies }
  | marked {engine : Engine} {happening : Happening} (truthful : happening.Truthful engine)
      (plain : happening.restores = false) :
      Move allowed engine (engine.mark happening)
  | diagnosed {engine : Engine} (level : Level) (text : String) :
      Move allowed engine (engine.send (.diagnostic level text))
  | loaded {engine : Engine} (flow : String) :
      Move allowed engine { engine with library := (engine.library.load flow).2 }
  | libraryAsked {engine : Engine} {request : Library.Step} (allows : allowed request) :
      Move allowed engine { engine with library := (request.run engine.library).2 }
  /-- A screen of the current flow is shown; the flow is at hand and has it. -/
  | navigated {engine : Engine} {screen : String} {flow : Flow}
      (found : engine.library.kept.get? engine.context.current.flow = some flow)
      (has : flow.hasScreen screen = true) :
      Move allowed engine
        (let moved := { engine with context := engine.context.replaceScreen screen }
        moved.send moved.location)
  /-- A screen of any flow is shown; the flow is at hand and has it. -/
  | pushed {engine : Engine} (frame : Frame) {flow : Flow} (data : Option Fields)
      (found : engine.library.kept.get? frame.flow = some flow)
      (has : flow.hasScreen frame.screen = true) :
      Move allowed engine
        (let (keys, context) := engine.context.push frame data
        let moved := { engine with context }
        moved.sendAll (updateNotice keys ++ [moved.location]))
  | stateSet {engine : Engine} (updates : Fields) :
      Move allowed engine
        ((engine.setState updates).2.sendAll (engine.setState updates).1.messages)
  | wentBack {engine : Engine} (steps : Nat) (clearData : Bool) :
      Move allowed engine
        ((engine.goBack steps clearData).2.sendAll (engine.goBack steps clearData).1.messages)
  | valueSet {engine : Engine} (key : String) (value : Json) :
      Move allowed engine (engine.setValue key value)
  | valueDropped {engine : Engine} (key : String) : Move allowed engine (engine.dropValue key).2
  | flowStateSet {engine : Engine} (flow : String) (state : Json) :
      Move allowed engine { engine with context := engine.context.setFlowState flow state }
  | backedUp {engine : Engine} (name : String) :
      Move allowed engine { engine with backups := engine.backups.put name engine.context }
  /-- The step that restores a saved context, from its request to its answer. -/
  | restored {engine : Engine} {name : String} {backup : Context} (runSteps : Runner)
      (found : engine.backups.get? name = some backup) :
      Move allowed engine (takeObserved runSteps (.restore name) engine).2
  | loggedOut {engine : Engine} : Move allowed engine engine.logout

abbrev Moves (allowed : Library.Step → Prop) : Engine → Engine → Prop :=
  Relation.ReflTransGen (Move allowed)

variable {allowed : Library.Step → Prop} {engine next last : Engine}

theorem Moves.keep {P : Engine → Prop}
    (step : ∀ {engine next : Engine}, Move allowed engine next → P engine → P next)
    (moves : Moves allowed engine next) (holds : P engine) : P next := by
  induction moves with
  | refl => exact holds
  | tail _ move ih => exact step move ih

@[simp]
theorem sendAll_cons (engine : Engine) (message : Message) (messages : List Message) :
    engine.sendAll (message :: messages) = (engine.send message).sendAll messages := rfl

/-- Sending touches nothing but the messages sent. -/
theorem sendAll_eq (engine : Engine) (messages : List Message) :
    engine.sendAll messages = { engine with sent := messages.reverse ++ engine.sent } := by
  induction messages generalizing engine with
  | nil => rfl
  | cons message rest ih => simp [ih, send]

theorem Obeys.of_eq (obeys : engine.Obeys allowed) (registry : next.registry = engine.registry)
    (replies : next.replies = engine.replies) : next.Obeys allowed :=
  ⟨registry ▸ obeys.handlers, replies ▸ obeys.replies⟩

theorem dropValue_eq (engine : Engine) (key : String) :
    (engine.dropValue key).2 =
      if (engine.context.session.get? key).isSome then
        { engine with
          context := { engine.context with session := (engine.context.session.remove key).2 }
          sent := .sessionUpdated [key] :: engine.sent }
      else engine := by
  unfold dropValue Session.remove
  cases engine.context.session.get? key <;> rfl

theorem takeObserved_restore {name : String} {backup : Context} (runSteps : Runner)
    (found : engine.backups.get? name = some backup) :
    (takeObserved runSteps (.restore name) engine).2 =
      ({ (engine.mark (.asked (.restore name))).restore backup with
        observed := ((engine.mark (.asked (.restore name))).restore backup).sent.length
        library := { engine.library with reads := [] } } : Engine).mark
          (.answered (.restore name) .done) := by
  have found' : ({ engine.mark (.asked (.restore name)) with calls := [] } : Engine).backups.get?
      name = some backup := found
  simp only [takeObserved, take, found']
  rfl

theorem Move.obeys (move : Move allowed engine next) (obeys : engine.Obeys allowed) :
    next.Obeys allowed := by
  cases move with
  | hosted registry replies kept => exact kept obeys
  | pushed frame data found has => exact obeys.of_eq (by simp [sendAll_eq]) (by simp [sendAll_eq])
  | stateSet updates =>
      exact obeys.of_eq (by simp [sendAll_eq, setState]) (by simp [sendAll_eq, setState])
  | wentBack steps clearData =>
      exact obeys.of_eq (by simp [sendAll_eq, goBack]) (by simp [sendAll_eq, goBack])
  | valueDropped key =>
      rw [dropValue_eq]
      split
      · exact obeys.of_eq rfl rfl
      · exact obeys
  | restored runSteps found =>
      rw [takeObserved_restore runSteps found]
      exact obeys.of_eq rfl rfl
  | _ => exact obeys.of_eq rfl rfl

theorem Moves.obeys (moves : Moves allowed engine next) (obeys : engine.Obeys allowed) :
    next.Obeys allowed :=
  moves.keep Move.obeys obeys

end Engine

end Storyboard
