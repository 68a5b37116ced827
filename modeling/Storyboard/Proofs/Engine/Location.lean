import Storyboard.Proofs.Context
import Storyboard.Proofs.Engine.Always
import Storyboard.Proofs.Navigation
/-!
# The location is told

A renderer that only listens knows where the user is: whatever moves the user tells the new
location at once, and going back is silent only if there was nowhere to go.

Main result: `lastLocation_eq_current`.
-/

namespace Storyboard

namespace Engine

/-- Where the user is by the messages alone: what the last message on a location names. The
latest message comes first. -/
def lastLocation? : List Message → Option Frame
  | [] => none
  | .screenChanged flow screen :: _ => some ⟨flow, screen⟩
  | _ :: earlier => lastLocation? earlier

theorem lastLocation?_append (news earlier : List Message) :
    lastLocation? (news ++ earlier) = (lastLocation? news).or (lastLocation? earlier) := by
  induction news with
  | nil => rfl
  | cons message rest ih => cases message <;> first | rfl | exact ih

/-- The messages name the current frame as the location. -/
def Told (engine : Engine) : Prop :=
  lastLocation? engine.sent = some engine.context.current

variable {allowed : Library.Step → Prop} {engine next : Engine}

/-- A change of place that is told last is known. -/
theorem told_of_news (news earlier : List Message) (sent : engine.sent = news ++ earlier)
    (told : lastLocation? news = some engine.context.current) : engine.Told := by
  rw [Told, sent, lastLocation?_append, told, Option.some_or]

/-- A change that leaves the user in place needs no news of the location. -/
theorem Told.of_current_eq (told : engine.Told) (news : List Message)
    (sent : next.sent = news ++ engine.sent) (silent : lastLocation? news = none)
    (stays : next.context.current = engine.context.current) : next.Told := by
  rw [Told, sent, lastLocation?_append, silent, Option.none_or, stays]
  exact told

/-- Going back tells the location, unless nothing was removed. -/
theorem Told.goBack (told : engine.Told) (steps : Nat) (clearData : Bool) :
    ((engine.goBack steps clearData).2.sendAll
      (engine.goBack steps clearData).1.messages).Told := by
  rw [sendAll_eq]
  cases removed : (engine.context.navigation.goBack steps).1 with
  | nil =>
      apply told.of_current_eq _ rfl
      · cases clearData <;> simp [Engine.goBack, removed, lastLocation?]
      · change (engine.context.goBack steps clearData).2.navigation.current = _
        rw [Context.goBack_navigation, BackStack.goBack_of_removed_nil removed]
        rfl
  | cons frame rest =>
      apply told_of_news _ engine.sent rfl
      simp only [Engine.goBack, Context.goBack_fst, removed]
      rw [List.reverse_append]
      rfl

theorem Told.move (move : Move allowed engine next) (told : engine.Told) : next.Told := by
  cases move with
  | diagnosed level text => exact told.of_current_eq [_] rfl rfl rfl
  | navigated found has => exact told_of_news [_] _ rfl rfl
  | pushed frame data found has =>
      simp only [sendAll_eq]
      refine told_of_news _ engine.sent rfl ?_
      rw [List.reverse_append]
      rfl
  | stateSet updates =>
      exact told.of_current_eq [_] rfl rfl rfl
  | wentBack steps clearData => exact told.goBack steps clearData
  | valueSet key value => exact told.of_current_eq [_] rfl rfl rfl
  | valueDropped key =>
      rw [dropValue_eq]
      split
      · exact told.of_current_eq [_] rfl rfl rfl
      · exact told
  | restored runSteps found =>
      rw [takeObserved_restore runSteps found]
      exact told_of_news [_, _] _ rfl rfl
  | loggedOut => exact told_of_news [_, _] _ rfl rfl
  | _ => exact told

/-- After a start, at every moment of every history and at its end, the last message on a
location names the current frame. -/
theorem lastLocation_eq_current {library : Library} {ahead : List String} {entry : String}
    (started : (start library ahead entry).1 = .ok engine) (registry : Registry Step)
    (replies : Table (List (Reply Step))) (steps : List Step) (depth : Nat) :
    let after := (runToDepth depth steps { engine with registry, replies }).2
    lastLocation? after.sent = some after.context.current ∧
      ∀ moment ∈ after.history,
        lastLocation? moment.seen.sent = some moment.seen.context.current := by
  obtain ⟨flow, screen, -, -, -, context, -, -, -, diagnostics, -, sent⟩ := start_ok started
  have first : engine.Told := by
    rw [Told, sent, context]
    rfl
  have always := Always.runToDepth registry replies steps depth Told.move started first
    (obeys_any _) fun step _ => step.obeys_any
  refine ⟨always.now, fun moment member => ?_⟩
  obtain ⟨shown, told, shows⟩ := always.past moment member
  rw [shows.seen]
  exact told

/-- The user goes to another flow while a request is pending, and back afterwards. -/
theorem lastLocation_eq_current_of_nested :
    ∃ engine, (start sampleLibrary ["shop"] "home").1 = .ok engine ∧
      let after :=
        (runToDepth 2 sampleSteps { engine with registry := [], replies := sampleReplies }).2
      lastLocation? after.sent = some after.context.current ∧
        ∀ moment ∈ after.history,
          lastLocation? moment.seen.sent = some moment.seen.context.current := by
  obtain ⟨engine, started⟩ := sampleLibrary_starts
  exact ⟨engine, started, lastLocation_eq_current started [] sampleReplies sampleSteps 2⟩

end Engine

end Storyboard
