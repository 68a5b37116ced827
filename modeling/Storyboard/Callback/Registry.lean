import Storyboard.Fault
/-!
# Handlers of the host

Flows call into the host by name. A handler answers its parameters with a value, with
nothing or with a failure. Before it answers it may take steps of its own on whatever
calls it; the type `S` of these steps depends on the caller, which runs them.

A handler is fixed as it is registered: its answer depends on the parameters of the call
alone and its steps on nothing. What its own steps come to reaches neither the steps after
them nor the answer; a host whose handlers decide by that is not described here.

Main definitions: `Handler.invoke` is one call, `Registry.Request` what can be asked of a
registry.
-/

namespace Storyboard

namespace Callback

/-- How a handler fails. -/
inductive Failure where
  /-- The input is not acceptable. -/
  | rejected (message : String)
  /-- Anything else went wrong. -/
  | failed (message : String)
deriving DecidableEq, Repr

/-- The fault that a failure of the named handler is. -/
def Failure.fault (name : String) : Failure → Fault
  | rejected message => .invalid message
  | failed message => .callbackFailed name message

/-- A handler of the host. -/
structure Handler (S : Type) where
  answer : Option Fields → Except Failure (Option Json)
  /-- The steps taken before the answer, if the handler takes any. -/
  during : Option (List S) := none

namespace Handler

variable {S : Type}

/-- A handler that always gives the same answer. -/
def constant (value : Option Json) : Handler S := { answer := fun _ => .ok value }

/-- A handler that gives its parameters back. -/
def echo : Handler S := { answer := fun params => .ok (params.map .obj) }

/-- A handler that gives back one parameter and rejects its absence. -/
def parameter (key : String) : Handler S :=
  { answer := fun params =>
      match params.bind (·.get? key) with
      | some value => .ok (some value)
      | none => .error (.rejected (key ++ " is required")) }

/-- A handler that always fails. -/
def failing (failure : Failure) : Handler S := { answer := fun _ => .error failure }

/-- What a call came to: its outcome, what was observed of the handler's own steps, and
what became of the caller. -/
structure Invocation (W E : Type) where
  outcome : Except Fault (Option Json)
  during : Option (List E)
  world : W

/-- Calls a handler. Its steps, if it takes any, are run first. -/
def invoke {W E : Type} (handler : Handler S) (runSteps : List S → W → List E × W)
    (name : String) (params : Option Fields) (world : W) : Invocation W E :=
  let outcome := (handler.answer params).mapError (Failure.fault name)
  match handler.during with
  | none => ⟨outcome, none, world⟩
  | some steps =>
    let (entries, world) := runSteps steps world
    ⟨outcome, some entries, world⟩

end Handler

end Callback

/-- The handlers by name. A name that is registered again gets the new handler. -/
abbrev Registry (S : Type) := Table (Callback.Handler S)

namespace Registry

/-- What can be asked of a registry. -/
inductive Request (S : Type) where
  | register (name : String) (handler : Callback.Handler S)
  | unregister (name : String)
  | clear
  | isRegistered (name : String)
  | names
  | execute (name : String) (params : Option Fields)

/-- The answer to a request. -/
inductive Answer where
  | done
  | flag (value : Bool)
  | names (names : List String)
  | outcome (outcome : Except Fault (Option Json))
  /-- What was asked is of an unknown kind. -/
  | unknown

end Registry

end Storyboard
