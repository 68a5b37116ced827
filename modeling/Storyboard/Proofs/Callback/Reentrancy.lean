import Mathlib.Data.List.Sort
import Storyboard.Callback.Reentrancy
/-!
# A registry while its handlers use it

A handler may replace, remove and call handlers before it answers, its own included, and
so may the handlers that it calls. What each step of such a run comes to is said here
from the changes made before it alone, without a table: a name has the handler it was
last registered with, unless it was removed since. The history of changes is threaded
through the steps of a running handler, so a call is settled by what holds as it starts
and later calls by what its steps left.

A handler that calls itself without end has no account. The runs of the model stop at a
depth instead, where a called handler takes no steps; an account that ends does so at some
depth, and every deeper run gives it.

Main result: `runToDepth_follows`.
-/

namespace Storyboard

namespace Registry

open Callback (Handler Failure)

/-- A change made to a registry. -/
inductive Change where
  | registered (name : String) (handler : Handler Step)
  | unregistered (name : String)
  | cleared

/-- A change decides what is registered under a name. -/
def Change.Concerns (name : String) : Change → Prop
  | registered other _ => other = name
  | unregistered other => other = name
  | cleared => True

/-- The changes made so far, the latest first. -/
abbrev History := List Change

namespace History

/-- The handler was registered under the name, and no later change concerns the name. -/
def Holds (history : History) (name : String) (handler : Handler Step) : Prop :=
  ∃ later earlier, history = later ++ .registered name handler :: earlier ∧
    ∀ change ∈ later, ¬change.Concerns name

/-- The names that have a handler, ascending and each of them once. -/
structure Lists (history : History) (names : List String) : Prop where
  ascending : names.Pairwise (· < ·)
  registered : ∀ name, name ∈ names ↔ ∃ handler, history.Holds name handler

theorem not_holds_nil (name : String) (handler : Handler Step) :
    ¬Holds [] name handler := by
  rintro ⟨later, earlier, split, -⟩
  exact List.append_ne_nil_of_right_ne_nil later (List.cons_ne_nil _ earlier) split.symm

theorem holds_cons_iff {change : Change} {history : History} {name : String}
    {handler : Handler Step} :
    Holds (change :: history) name handler ↔
      change = .registered name handler ∨
        ¬change.Concerns name ∧ history.Holds name handler := by
  constructor
  · rintro ⟨later, earlier, split, silent⟩
    cases later with
    | nil => exact .inl (List.cons.inj split).1
    | cons head later =>
      rcases List.cons.inj split with ⟨rfl, rest⟩
      exact .inr ⟨silent _ List.mem_cons_self, later, earlier, rest,
        fun change member => silent change (List.mem_cons_of_mem _ member)⟩
  · rintro (rfl | ⟨apart, later, earlier, rfl, silent⟩)
    · exact ⟨[], history, rfl, fun change member => absurd member List.not_mem_nil⟩
    · exact ⟨change :: later, earlier, rfl, List.forall_mem_cons.2 ⟨apart, silent⟩⟩

theorem Lists.eq {history : History} {names others : List String} (first : history.Lists names)
    (second : history.Lists others) : names = others :=
  first.ascending.eq_of_mem_iff second.ascending fun name =>
    (first.registered name).trans (second.registered name).symm

end History

/-- The outcome of a call, from what the handler answered. -/
inductive Ends (name : String) :
    Except Failure (Option Json) → Except Fault (Option Json) → Prop where
  | value (value : Option Json) : Ends name (.ok value) (.ok value)
  | rejected (message : String) :
    Ends name (.error (.rejected message)) (.error (.invalid message))
  | failed (message : String) :
    Ends name (.error (.failed message)) (.error (.callbackFailed name message))

/-- What steps taken after a history may be observed to do, and the history after them. -/
abbrev Account := History → List Step → List Entry → History → Prop

/-- What a called handler does before it answers. -/
inductive Meanwhile (nested : Account) (history : History) :
    Option (List Step) → Option (List Entry) → History → Prop where
  | nothing : Meanwhile nested history none none history
  | steps {steps : List Step} {entries : List Entry} {after : History}
    (taken : nested history steps entries after) :
    Meanwhile nested history (some steps) (some entries) after

/-- The answer to a step, the calls made in it and the history after it. -/
inductive Told (nested : Account) (history : History) :
    Step → Answer → List (Call Entry) → History → Prop where
  | register (name : String) (handler : Handler Step) :
    Told nested history (.ask (.register name handler)) .done []
      (.registered name handler :: history)
  | unregister {name : String} {known : Bool}
    (told : known = true ↔ ∃ handler, history.Holds name handler) :
    Told nested history (.ask (.unregister name)) (.flag known) []
      (.unregistered name :: history)
  | clear : Told nested history (.ask .clear) .done [] (.cleared :: history)
  | isRegistered {name : String} {known : Bool}
    (told : known = true ↔ ∃ handler, history.Holds name handler) :
    Told nested history (.ask (.isRegistered name)) (.flag known) [] history
  | names {names : List String} (lists : history.Lists names) :
    Told nested history (.ask .names) (.names names) [] history
  | missing {name : String} (params : Option Fields)
    (missing : ∀ handler, ¬history.Holds name handler) :
    Told nested history (.ask (.execute name params))
      (.outcome (.error (.unknownCallback name))) [] history
  /-- The handler that the name has as the call starts is called, once. -/
  | call {name : String} {params : Option Fields} {handler : Handler Step}
    {during : Option (List Entry)} {outcome : Except Fault (Option Json)} {after : History}
    (holds : history.Holds name handler)
    (meanwhile : Meanwhile nested history handler.during during after)
    (ends : Ends name (handler.answer params) outcome) :
    Told nested history (.ask (.execute name params)) (.outcome outcome)
      [⟨name, params, during⟩] after
  | unknown : Told nested history .unknown .unknown [] history

/-- What steps do that are taken in order. -/
inductive Follows (nested : Account) : Account where
  | nil (history : History) : Follows nested history [] [] history
  | cons {history next after : History} {step : Step} {answer : Answer} {names : List String}
    {calls : List (Call Entry)} {steps : List Step} {entries : List Entry}
    (told : Told nested history step answer calls next) (lists : next.Lists names)
    (rest : Follows nested next steps entries after) :
    Follows nested history (step :: steps) (.mk answer names calls :: entries) after

/-- What steps do whose handlers take theirs down to a depth. -/
def FollowsTo (below : Account) : Nat → Account
  | 0 => below
  | depth + 1 => Follows (FollowsTo below depth)

/-- Steps are passed over. -/
def Untaken : Account := fun history _ entries after => entries = [] ∧ after = history

/-- Steps are not taken, so a run that gets to them has no account. -/
def Unreached : Account := fun _ _ _ _ => False

/-- The registry holds what the history says. -/
structure Agrees (history : History) (registry : Registry Step) : Prop where
  ordered : registry.Ordered
  found : ∀ name handler, registry.get? name = some handler ↔ history.Holds name handler

namespace Agrees

variable {history : History} {registry : Registry Step}

theorem nil : Agrees [] [] where
  ordered := Table.Ordered.nil
  found name handler := by simp [History.not_holds_nil]

/-- A change that is made to a registry settles the names it concerns and leaves the others. -/
theorem after (agrees : Agrees history registry) {change : Change} {next : Registry Step}
    (ordered : next.Ordered)
    (settled : ∀ name handler, change.Concerns name →
      (next.get? name = some handler ↔ change = .registered name handler))
    (others : ∀ name, ¬change.Concerns name → next.get? name = registry.get? name) :
    Agrees (change :: history) next where
  ordered := ordered
  found name handler := by
    rw [History.holds_cons_iff]
    by_cases concerns : change.Concerns name
    · simp [settled name handler concerns, concerns]
    · have other : change ≠ .registered name handler := by
        rintro rfl
        exact concerns rfl
      simp [others name concerns, agrees.found, concerns, other]

theorem register (agrees : Agrees history registry) (name : String) (handler : Handler Step) :
    Agrees (.registered name handler :: history) (registry.put name handler) := by
  refine agrees.after (agrees.ordered.put name handler) ?_ ?_
  · rintro _ found rfl
    simp
  · exact fun _ apart => Table.get?_put_of_ne (Ne.symm apart) registry handler

theorem unregister (agrees : Agrees history registry) (name : String) :
    Agrees (.unregistered name :: history) (registry.erase name) := by
  refine agrees.after (agrees.ordered.erase name) ?_ ?_
  · rintro _ found rfl
    simp
  · exact fun _ apart => Table.get?_erase_of_ne (Ne.symm apart) registry

theorem clear (agrees : Agrees history registry) : Agrees (.cleared :: history) [] := by
  refine agrees.after Table.Ordered.nil ?_ ?_
  · simp
  · exact fun _ apart => absurd trivial apart

theorem missing_iff (agrees : Agrees history registry) {name : String} :
    registry.get? name = none ↔ ∀ handler, ¬history.Holds name handler := by
  simp [← agrees.found, Option.eq_none_iff_forall_ne_some]

theorem contains_iff (agrees : Agrees history registry) {name : String} :
    registry.contains name = true ↔ ∃ handler, history.Holds name handler := by
  simp [Table.contains, Option.isSome_iff_exists, agrees.found]

theorem lists (agrees : Agrees history registry) : history.Lists registry.keys where
  ascending := List.pairwise_map.2 agrees.ordered
  registered _ := Table.contains_iff.symm.trans agrees.contains_iff

theorem contains_eq (agrees : Agrees history registry) {name : String} {known : Bool}
    (told : known = true ↔ ∃ handler, history.Holds name handler) :
    registry.contains name = known :=
  Bool.eq_iff_iff.2 (agrees.contains_iff.trans told.symm)

end Agrees

theorem ends_mapError (name : String) (answer : Except Failure (Option Json)) :
    Ends name answer (answer.mapError (Failure.fault name)) := by
  rcases answer with (message | message) | value
  · exact .rejected message
  · exact .failed message
  · exact .value value

theorem Ends.mapError_eq {name : String} {answer : Except Failure (Option Json)}
    {outcome : Except Fault (Option Json)} (ends : Ends name answer outcome) :
    answer.mapError (Failure.fault name) = outcome := by
  cases ends <;> rfl

theorem invoke_outcome (runSteps : Runner) (handler : Handler Step) (name : String)
    (params : Option Fields) (registry : Registry Step) :
    (handler.invoke runSteps name params registry).outcome =
      (handler.answer params).mapError (Failure.fault name) := by
  rw [Handler.invoke]
  cases handler.during <;> rfl

/-- Every run of the runner has the account. -/
def Accounted (nested : Account) (runSteps : Runner) : Prop :=
  ∀ {history : History} {registry : Registry Step}, Agrees history registry →
    ∀ steps, ∃ after, nested history steps (runSteps steps registry).1 after ∧
      Agrees after (runSteps steps registry).2

/-- What has the account is what the runner gives. -/
def Gives (nested : Account) (runSteps : Runner) : Prop :=
  ∀ {history after : History} {registry : Registry Step} {steps : List Step}
    {entries : List Entry}, Agrees history registry → nested history steps entries after →
      (runSteps steps registry).1 = entries ∧ Agrees after (runSteps steps registry).2

section Runs

variable {nested : Account} {runSteps : Runner} {history : History} {registry : Registry Step}

theorem Accounted.invoke (accounted : Accounted nested runSteps)
    (agrees : Agrees history registry) (handler : Handler Step) (name : String)
    (params : Option Fields) :
    ∃ after,
      Meanwhile nested history handler.during
        (handler.invoke runSteps name params registry).during after ∧
      Agrees after (handler.invoke runSteps name params registry).world := by
  rw [Handler.invoke]
  cases handler.during with
  | none => exact ⟨history, .nothing, agrees⟩
  | some steps =>
    rcases accounted agrees steps with ⟨after, taken, agrees⟩
    exact ⟨after, .steps taken, agrees⟩

theorem Gives.invoke (gives : Gives nested runSteps) (agrees : Agrees history registry)
    {handler : Handler Step} {during : Option (List Entry)} {after : History}
    (meanwhile : Meanwhile nested history handler.during during after) (name : String)
    (params : Option Fields) :
    (handler.invoke runSteps name params registry).during = during ∧
      Agrees after (handler.invoke runSteps name params registry).world := by
  rw [Handler.invoke]
  generalize handler.during = steps at meanwhile
  cases meanwhile with
  | nothing => exact ⟨rfl, agrees⟩
  | steps taken =>
    rcases gives agrees taken with ⟨same, agrees⟩
    exact ⟨congrArg some same, agrees⟩

theorem Accounted.step (accounted : Accounted nested runSteps)
    (agrees : Agrees history registry) (step : Step) :
    ∃ answer calls next, Told nested history step answer calls next ∧
      (step.run runSteps registry).1 =
        .mk answer (step.run runSteps registry).2.keys calls ∧
      Agrees next (step.run runSteps registry).2 := by
  cases step with
  | unknown => exact ⟨_, _, _, .unknown, rfl, agrees⟩
  | ask request =>
    cases request with
    | register name handler =>
      exact ⟨_, _, _, .register name handler, rfl, agrees.register name handler⟩
    | unregister name =>
      exact ⟨_, _, _, .unregister agrees.contains_iff, rfl, agrees.unregister name⟩
    | clear => exact ⟨_, _, _, .clear, rfl, agrees.clear⟩
    | isRegistered name => exact ⟨_, _, _, .isRegistered agrees.contains_iff, rfl, agrees⟩
    | names => exact ⟨_, _, _, .names agrees.lists, rfl, agrees⟩
    | execute name params =>
      cases found : registry.get? name with
      | none =>
        refine ⟨_, _, _, .missing params (agrees.missing_iff.1 found), ?_⟩
        simpa [Step.run, execute, found] using agrees
      | some handler =>
        rcases accounted.invoke agrees handler name params with ⟨after, meanwhile, agrees'⟩
        -- The history may have grown meanwhile; the handler is the one it had before.
        refine ⟨_, _, _, .call ((agrees.found name handler).1 found) meanwhile
          (ends_mapError name _), ?_⟩
        simpa [Step.run, execute, found, invoke_outcome] using agrees'

theorem Gives.step (gives : Gives nested runSteps) (agrees : Agrees history registry)
    {step : Step} {answer : Answer} {calls : List (Call Entry)} {next : History}
    (told : Told nested history step answer calls next) :
    (step.run runSteps registry).1 =
        .mk answer (step.run runSteps registry).2.keys calls ∧
      Agrees next (step.run runSteps registry).2 := by
  cases told with
  | register name handler => exact ⟨rfl, agrees.register name handler⟩
  | unregister told =>
    refine ⟨?_, agrees.unregister _⟩
    simp [Step.run, agrees.contains_eq told]
  | clear => exact ⟨rfl, agrees.clear⟩
  | isRegistered told =>
    refine ⟨?_, agrees⟩
    simp [Step.run, agrees.contains_eq told]
  | names lists =>
    refine ⟨?_, agrees⟩
    simp [Step.run, agrees.lists.eq lists]
  | missing params missing =>
    simpa [Step.run, execute, agrees.missing_iff.2 missing] using agrees
  | @call name params handler during outcome _ holds meanwhile ends =>
    rcases gives.invoke agrees meanwhile name params with ⟨same, agrees'⟩
    have found := (agrees.found name handler).2 holds
    simpa [Step.run, execute, found, invoke_outcome, same, ends.mapError_eq] using agrees'
  | unknown => exact ⟨rfl, agrees⟩

theorem runAll_cons (runSteps : Runner) (step : Step) (rest : List Step)
    (registry : Registry Step) :
    runAll runSteps (step :: rest) registry =
      ((step.run runSteps registry).1 ::
          (runAll runSteps rest (step.run runSteps registry).2).1,
        (runAll runSteps rest (step.run runSteps registry).2).2) := rfl

theorem Accounted.all (accounted : Accounted nested runSteps) :
    Accounted (Follows nested) (runAll runSteps) := by
  intro history registry agrees steps
  induction steps generalizing history registry with
  | nil => exact ⟨history, .nil history, agrees⟩
  | cons step rest ih =>
    rcases accounted.step agrees step with ⟨answer, calls, next, told, entry, agrees⟩
    rcases ih agrees with ⟨after, follows, agrees'⟩
    refine ⟨after, ?_, agrees'⟩
    rw [runAll_cons, entry]
    exact .cons told agrees.lists follows

theorem Gives.all (gives : Gives nested runSteps) : Gives (Follows nested) (runAll runSteps) := by
  intro history after registry steps entries agrees follows
  induction follows generalizing registry with
  | nil => exact ⟨rfl, agrees⟩
  | cons told lists rest ih =>
    rcases gives.step agrees told with ⟨entry, agrees⟩
    rcases ih agrees with ⟨same, agrees'⟩
    refine ⟨?_, agrees'⟩
    rw [runAll_cons, entry, agrees.lists.eq lists, same]

end Runs

theorem accounted_runToDepth (depth : Nat) :
    Accounted (FollowsTo Untaken depth) (runToDepth depth) := by
  induction depth with
  | zero => exact fun agrees _ => ⟨_, ⟨rfl, rfl⟩, agrees⟩
  | succ depth ih => exact ih.all

theorem gives_runToDepth (depth more : Nat) :
    Gives (FollowsTo Unreached depth) (runToDepth (depth + more)) := by
  induction depth with
  -- At depth zero no step is taken, so nothing has an account.
  | zero => exact fun _ reached => reached.elim
  | succ depth ih =>
    rw [Nat.add_right_comm]
    exact ih.all

/-- What can be read off a registry is what the history says. -/
structure Reads (history : History) (registry : Registry Step) : Prop where
  handler : ∀ name handler, registry.get? name = some handler ↔ history.Holds name handler
  names : history.Lists registry.keys
  isRegistered : ∀ name, registry.contains name = true ↔ name ∈ registry.keys
  length : registry.length = registry.keys.length

theorem Agrees.reads {history : History} {registry : Registry Step}
    (agrees : Agrees history registry) : Reads history registry where
  handler := agrees.found
  names := agrees.lists
  isRegistered _ := Table.contains_iff
  length := (List.length_map _).symm

/-- Steps on an empty registry do what the changes made before each of them say, those
made by running handlers included, down to the depth of the run. Where the steps come to
an end within a depth, every deeper run does just that. -/
theorem runToDepth_follows (steps : List Step) :
    (∀ depth, ∃ history,
      FollowsTo Untaken depth [] steps (runToDepth depth steps []).1 history ∧
        Reads history (runToDepth depth steps []).2) ∧
    ∀ depth entries history, FollowsTo Unreached depth [] steps entries history →
      ∀ deeper, depth ≤ deeper →
        (runToDepth deeper steps []).1 = entries ∧
          Reads history (runToDepth deeper steps []).2 := by
  constructor
  · intro depth
    rcases accounted_runToDepth depth .nil steps with ⟨history, follows, agrees⟩
    exact ⟨history, follows, agrees.reads⟩
  · intro depth entries history follows deeper within
    rcases Nat.exists_eq_add_of_le within with ⟨more, rfl⟩
    rcases gives_runToDepth depth more .nil follows with ⟨same, agrees⟩
    exact ⟨same, agrees.reads⟩

/-- A handler that puts another in its place, calls it, removes every handler and fails. -/
def sampleHandler : Handler Step where
  answer := fun _ => .error (.failed "late")
  during := some
    [.ask (.register "a" .echo), .ask (.execute "a" (some [])), .ask .clear]

/-- `sampleHandler` is called twice. -/
def sampleSteps : List Step :=
  [.ask (.register "a" sampleHandler), .ask (.execute "a" none), .ask (.execute "a" none)]

def sampleEntries : List Entry :=
  [.mk .done ["a"] [],
    .mk (.outcome (.error (.callbackFailed "a" "late"))) []
      [⟨"a", none, some
        [.mk .done ["a"] [],
          .mk (.outcome (.ok (some (.obj [])))) ["a"] [⟨"a", some [], none⟩],
          .mk .done [] []]⟩],
    .mk (.outcome (.error (.unknownCallback "a"))) [] []]

def sampleHistory : History :=
  [.cleared, .registered "a" .echo, .registered "a" sampleHandler]

theorem runToDepth_follows_of_replaced :
    FollowsTo Unreached 2 [] sampleSteps sampleEntries sampleHistory ∧
      (runToDepth 9 sampleSteps []).1 = sampleEntries ∧
      Reads sampleHistory (runToDepth 9 sampleSteps []).2 := by
  have first := Agrees.nil.register "a" sampleHandler
  have second := first.register "a" .echo
  have cleared := second.clear
  have replaced : Told Unreached _ (.ask (.execute "a" (some []))) _ _ _ :=
    .call ((second.found "a" .echo).1 rfl) .nothing (.value (some (.obj [])))
  have called : Told (FollowsTo Unreached 1) _ (.ask (.execute "a" none)) _ _ _ :=
    .call ((first.found "a" sampleHandler).1 rfl)
      (.steps (.cons (.register "a" .echo) second.lists
        (.cons replaced second.lists (.cons .clear cleared.lists (.nil _)))))
      (.failed "late")
  have missing : Told (FollowsTo Unreached 1) _ (.ask (.execute "a" none)) _ _ _ :=
    .missing none (cleared.missing_iff.1 rfl)
  have follows : FollowsTo Unreached 2 [] sampleSteps sampleEntries sampleHistory :=
    .cons (.register "a" sampleHandler) first.lists
      (.cons called cleared.lists (.cons missing cleared.lists (.nil _)))
  exact ⟨follows, (runToDepth_follows sampleSteps).2 2 _ _ follows 9 (by decide)⟩

end Registry

end Storyboard
