import Storyboard.Proofs.Engine.Always
import Storyboard.Proofs.Run.Correspondence
/-!
# Two names for one action

A handler of the host is called by either of two actions, and it makes no difference by which.
So the one may stand for the other anywhere in a tree, and all that tells them apart is the word
that declares them, where the phase or a diagnostic names it.

Main result: `run_exchanged`.
-/

namespace Storyboard

/-- The same action, or the same call of a handler declared by the other word. -/
inductive Action.Exchanged : Action → Action → Prop where
  | same (action : Action) : Action.Exchanged action action
  | custom (name : String) (params : Option Fields) :
      Action.Exchanged (.custom name params) (.executeCallback name params)
  | executeCallback (name : String) (params : Option Fields) :
      Action.Exchanged (.executeCallback name params) (.custom name params)

theorem Action.Exchanged.resolve {action other : Action} (exchanged : action.Exchanged other)
    (scopes : Scopes) : (action.resolve scopes).Exchanged (other.resolve scopes) := by
  cases exchanged with
  | same => exact .same _
  | custom name params => exact .custom _ _
  | executeCallback name params => exact .executeCallback _ _

/-- The same name and the same parameters, in the fields of either declaration. -/
structure Action.SamePayload (custom executeCallback : Fields) : Prop where
  name : executeCallback.get? "callbackName" = custom.get? "handler"
  params : executeCallback.get? "params" = custom.get? "parameters"

/-- The two declarations are read alike, also where parameters are absent or null. -/
theorem Action.SamePayload.ofFields {payload other : Fields}
    (same : Action.SamePayload payload other) (name : String) (params : Option Fields) :
    Action.ofFields "custom" payload = .ok (.custom name params) ↔
      Action.ofFields "executeCallback" other = .ok (.executeCallback name params) := by
  have nameRead : Payload.read Payload.text other "callbackName" =
      Payload.read Payload.text payload "handler" := by
    rw [Payload.read, Payload.read, same.name]
  have paramsRead : Payload.readOptional Payload.table other "params" =
      Payload.readOptional Payload.table payload "parameters" := by
    rw [Payload.readOptional, Payload.readOptional, same.params]
  have custom : Action.readPayload "custom" payload = Action.readCustom payload := rfl
  have callback : Action.readPayload "executeCallback" other =
      Action.readExecuteCallback other := rfl
  rw [Action.ofFields, Action.ofFields, custom, callback, Action.readCustom,
    Action.readExecuteCallback, nameRead, paramsRead]
  cases Payload.read Payload.text payload "handler" with
  | error defect => exact iff_of_false nofun nofun
  | ok found =>
      cases Payload.readOptional Payload.table payload "parameters" with
      | error defect => exact iff_of_false nofun nofun
      | ok given =>
          cases found with
          | none => exact iff_of_false nofun nofun
          | some called =>
              constructor
              · rintro ⟨⟩
                rfl
              · rintro ⟨⟩
                rfl

namespace Engine

/-- The same phase, but for the word of the action. -/
inductive ExchangedPhase : Phase → Phase → Prop where
  | same (phase : Phase) : ExchangedPhase phase phase
  | executing {action other : Action} (exchanged : action.Exchanged other) (depth : Nat) :
      ExchangedPhase (.executing action.tag depth) (.executing other.tag depth)
  | settled {action other : Action} (exchanged : action.Exchanged other) (outcome : Outcome) :
      ExchangedPhase (settled action.tag outcome) (settled other.tag outcome)

/-- The same message, but for the word in front of a diagnostic. -/
inductive ExchangedMessage : Message → Message → Prop where
  | same (message : Message) : ExchangedMessage message message
  | diagnostic {action other : Action} (exchanged : action.Exchanged other) (level : Level)
      (text : String) :
      ExchangedMessage (.diagnostic level (action.tag ++ ": " ++ text))
        (.diagnostic level (other.tag ++ ": " ++ text))

theorem diagnostics_exchanged {action other : Action} (exchanged : action.Exchanged other)
    (handled : Bool) (outcome : Outcome) :
    List.Forall₂ ExchangedMessage (diagnostics action.tag handled outcome)
      (diagnostics other.tag handled outcome) := by
  cases outcome with
  | ok output => exact .nil
  | error fault =>
      simp only [diagnostics, diagnostic?]
      split
      · exact .cons (ExchangedMessage.diagnostic exchanged .error fault.message) .nil
      · split
        · exact .nil
        · exact .cons (ExchangedMessage.diagnostic exchanged .warning fault.message) .nil

/-- Calls of handlers may be told by either word. -/
def Retelling.exchange : Retelling :=
  { Retelling.exact with
    phase := ExchangedPhase
    phases := List.Forall₂ ExchangedPhase
    message := ExchangedMessage
    action := Action.Exchanged
    phase_refl := .same
    phases_refl := fun _ => List.forall₂_same.2 fun phase _ => .same phase
    phases_cons := .cons
    message_refl := .same
    action_refl := .same
    executing := fun exchanged same => by
      cases same
      exact .executing exchanged _
    settled := .settled
    diagnostics := diagnostics_exchanged
    resolve := Action.Exchanged.resolve
    perform := fun exchanged runSteps => by
      cases exchanged with
      | same => rfl
      | custom name params => rfl
      | executeCallback name params => rfl }

/-- Either action may be declared in place of the other, anywhere in a tree. -/
theorem run_exchanged (depth : Nat) {trigger other : Trigger}
    (corresponds : trigger.Corresponds Action.Exchanged other) (fields : Fields) (engine : Engine) :
    (∀ payload declared, Action.SamePayload payload declared → ∀ name params,
      Action.ofFields "custom" payload = .ok (.custom name params) ↔
        Action.ofFields "executeCallback" declared = .ok (.executeCallback name params)) ∧
      Retelling.exchange.SameRun Eq (engine.run (runToDepth depth) trigger fields)
        (engine.run (runToDepth depth) other fields) := by
  refine ⟨fun payload declared same => same.ofFields, ?_⟩
  exact (Retelling.SameEngine.refl engine).runOf
    (Retelling.runToDepth_keeps Retelling.exchange depth)
    (fun _ _ edge same => congrArg (edge :: ·) same) rfl corresponds fields

/-- A call with another one for its failure, and that one once more. -/
def sampleCalls (save log : Action) : Trigger :=
  .chain [.mk save none (some (.single (.mk log none none))), .mk log none none]

theorem sampleCalls_corresponds {save log otherSave otherLog : Action}
    (saves : save.Exchanged otherSave) (logs : log.Exchanged otherLog) :
    (sampleCalls save log).Corresponds Action.Exchanged (sampleCalls otherSave otherLog) := by
  have logged : Descriptor.Corresponds Action.Exchanged (.mk log none none)
      (.mk otherLog none none) := .mk logs .none .none
  exact .chain (.cons (.mk saves .none (.some (.single logged))) (.cons logged .nil))

/-- A handler that fails is called by either word, and so is one that does not exist. -/
theorem run_exchanged_of_failure :
    ∃ engine, (start sampleLibrary ["shop"] "home").1 = .ok engine ∧
      ∃ trigger other,
        trigger = sampleCalls (.custom "save" none) (.executeCallback "log" none) ∧
        other = sampleCalls (.executeCallback "save" none) (.custom "log" none) ∧
        trigger.Corresponds Action.Exchanged other ∧
        Retelling.exchange.SameRun Eq
          (Engine.run (runToDepth 1) trigger []
            { engine with registry := [("save", .failing (.failed "disk full"))] })
          (Engine.run (runToDepth 1) other []
            { engine with registry := [("save", .failing (.failed "disk full"))] }) := by
  rcases sampleLibrary_starts with ⟨engine, started⟩
  have corresponds := sampleCalls_corresponds (.custom "save" none) (.executeCallback "log" none)
  exact ⟨engine, started, _, _, rfl, rfl, corresponds, (run_exchanged 1 corresponds [] _).2⟩

end Engine

end Storyboard
