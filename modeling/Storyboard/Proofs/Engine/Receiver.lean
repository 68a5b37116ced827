import Storyboard.Proofs.Engine.Lockstep
/-!
# Nobody listens

The renderer may drop the receiver of the messages at any moment, also while a step is taken,
an action waits or a collaborator takes steps of its own. The engine does not notice: the history
goes on as it would have, down to what is sent, only nothing that is sent arrives any more.

A point of a history is the number of moments before it. Only an observation asks for the
receiver, so one that goes in the middle of a step may as well go before the next observation.

Main result: `runDropping_unnoticed`.
-/

namespace Storyboard

namespace Engine

/-- The receiver is gone if the history has reached a point. It goes as it does in a step that
closes it. -/
def dropAt (point : Nat) (engine : Engine) : Engine :=
  if point ≤ engine.history.length then (take (runToDepth 0) .close engine).2 else engine

/-- Takes a step and observes the engine after it, as `takeObserved` does. The receiver is gone
from a point of the history on. -/
def takeDropping (point : Nat) (runSteps : Runner) (step : Step) (engine : Engine) :
    Entry × Engine :=
  let outer := engine.calls
  let (answer, engine) :=
    take runSteps step { (engine.dropAt point).mark (.asked step) with calls := [] }
  let (entry, engine) := (engine.dropAt point).observe (some answer)
  (entry, { engine with calls := outer }.mark (.answered step answer))

/-- Takes steps in order, with the receiver gone from a point of the history on. -/
def runAllDropping (point : Nat) (runSteps : Runner) : List Step → Engine → List Entry × Engine
  | [], engine => ([], engine.dropAt point)
  | step :: rest, engine =>
    let (entry, engine) := takeDropping point runSteps step engine
    let (entries, engine) := runAllDropping point runSteps rest engine
    (entry :: entries, engine)

/-- Takes steps as `runToDepth` does, with the receiver gone from a point of the history on. -/
def runDropping (point : Nat) : Nat → Runner
  | 0 => fun _ engine => ([], engine.dropAt point)
  | depth + 1 => runAllDropping point (runDropping point depth)

/-- What is promised of two runs from the same engine, the receiver kept in one and gone in the
other from a point of the history on. -/
structure Unaffected (point : Nat) (engine : Engine) (kept dropped : List Entry × Engine) :
    Prop where
  /-- The same engine is left, with the same history: what was done at every moment, and what
  could be seen of the engine then. -/
  same : dropped.2 = kept.2.dropAt point
  /-- The answers are the same, and so are the loads and calls observed. Messages are missing
  from the point on, and from nowhere else. -/
  entries : ∃ times, answerTimes kept.2.history = answerTimes engine.history ++ times ∧
    SameEntries point times kept.1 dropped.1

variable {point : Nat} {before : List Nat} {engine other : Engine}
  {runSteps otherSteps : Runner}

theorem dropAt_eq (point : Nat) (engine : Engine) :
    engine.dropAt point =
      { engine with listening := engine.listening && decide (engine.history.length < point) } := by
  unfold dropAt
  split
  · rename_i reached
    have gone : decide (engine.history.length < point) = false := by
      rw [decide_eq_false_iff_not]
      omega
    simp only [gone, Bool.and_false]
    rfl
  · rename_i ahead
    have heard : decide (engine.history.length < point) = true := by
      rw [decide_eq_true_eq]
      omega
    simp only [heard, Bool.and_true]

/-- Once the receiver had its chance to go, whether somebody listens is settled by the history. -/
theorem Alike.dropAt_eq (alike : Alike point engine other) :
    other.dropAt point =
      engine.observedAs (engine.listening && decide (engine.history.length < point))
        other.calls := by
  rcases alike with ⟨⟨listening, calls, rfl⟩, listens⟩
  rw [Engine.dropAt_eq]
  by_cases ahead : engine.history.length < point
  · have same : listening = engine.listening :=
      listens.resolve_right fun gone => Nat.not_le_of_lt ahead gone.2
    simp [ahead, same, observedAs]
  · simp [ahead, observedAs]

theorem Alike.dropAt (alike : Alike point engine other) :
    Alike point engine (other.dropAt point) := by
  rw [alike.dropAt_eq]
  refine ⟨⟨_, _, rfl⟩, ?_⟩
  by_cases ahead : engine.history.length < point
  · left
    simp [ahead]
  · right
    exact ⟨by simp [ahead], Nat.le_of_not_lt ahead⟩

/-- An engine is asked to take a step. -/
theorem Alike.asked (alike : Alike point engine other) (step : Step) :
    Lockstep point (answerTimes engine.history)
      { engine.mark (.asked step) with calls := [] }
      { (other.dropAt point).mark (.asked step) with calls := [] } := by
  have still := alike.dropAt
  rw [alike.dropAt_eq] at still ⊢
  refine ⟨⟨⟨_, [], rfl⟩, ?_⟩, [], ?_, .nil⟩
  · exact still.listens.imp_right fun gone => ⟨gone.1, Nat.le_succ_of_le gone.2⟩
  · simp [answerTimes, mark, Happening.isAnswer]

/-- A step taken on both engines. What was observed of it goes before what is observed of the
steps after it. -/
structure SameStep (point : Nat) (before : List Nat) (result other : Entry × Engine) :
    Prop where
  alike : Alike point result.2 other.2
  observed : ∃ times, answerTimes result.2.history = before ++ times ∧
    ∀ {later entries otherEntries}, SameEntries point later entries otherEntries →
      SameEntries point (times ++ later) (result.1 :: entries) (other.1 :: otherEntries)

/-- The engines are observed after a step, and the step is answered. -/
theorem Lockstep.answered (lockstep : Lockstep point before engine other) (step : Step)
    (answer : Answer) (outer otherOuter : List (Call Entry)) :
    SameStep point before
      ((engine.observe (some answer)).1,
        ({ (engine.observe (some answer)).2 with calls := outer } : Engine).mark
          (.answered step answer))
      (((other.dropAt point).observe (some answer)).1,
        ({ ((other.dropAt point).observe (some answer)).2 with calls := otherOuter } :
          Engine).mark (.answered step answer)) := by
  rcases lockstep.called with ⟨times, before_eq, called⟩
  have still := lockstep.toAlike.dropAt
  rw [lockstep.toAlike.dropAt_eq] at still ⊢
  refine ⟨⟨⟨_, otherOuter, rfl⟩, ?_⟩, times ++ [engine.history.length], ?_, ?_⟩
  · exact still.listens.imp_right fun gone => ⟨gone.1, Nat.le_succ_of_le gone.2⟩
  · change answerTimes engine.history ++ [engine.history.length] = _
    rw [before_eq, List.append_assoc]
  · intro later entries otherEntries goesOn
    have seen := SameEntries.cons (some answer)
      (if engine.listening then some engine.unobserved else none) engine.library.reads
      engine.snapshot engine.history.length called goesOn
    rw [List.append_assoc]
    by_cases ahead : engine.history.length < point
    · simpa [observe, ahead] using seen
    · simpa [observe, ahead] using seen

/-- No step is taken. -/
theorem Alike.unheard (alike : Alike point engine other) :
    Unheard point engine other ([], engine) ([], other.dropAt point) := by
  refine ⟨alike.dropAt, rfl, ?_, [], (List.append_nil _).symm, .nil⟩
  rw [alike.dropAt_eq, observedAs_calls]

section Steps

variable (unnoticed : Unnoticed point runSteps otherSteps)
include unnoticed

theorem Alike.takeDropping (alike : Alike point engine other) (step : Step) :
    SameStep point (answerTimes engine.history) (takeObserved runSteps step engine)
      (Engine.takeDropping point otherSteps step other) := by
  rcases (alike.asked step).take unnoticed step with ⟨value, lockstep⟩
  have answered := lockstep.answered step
    (take runSteps step { engine.mark (.asked step) with calls := [] }).1 engine.calls other.calls
  unfold Engine.takeDropping
  dsimp only
  rw [value]
  exact answered

theorem Alike.runAllDropping (alike : Alike point engine other) (steps : List Step) :
    Unheard point engine other (runAll runSteps steps engine)
      (Engine.runAllDropping point otherSteps steps other) := by
  induction steps generalizing engine other with
  | nil => exact alike.unheard
  | cons step rest ih =>
      rcases alike.takeDropping unnoticed step with ⟨next, times, answered, observed⟩
      rcases ih next with ⟨last, calls, otherCalls, later, answeredLater, entries⟩
      refine ⟨last, calls, otherCalls, times ++ later, answeredLater.trans ?_, observed entries⟩
      rw [answered, List.append_assoc]

end Steps

theorem runDropping_unheard (point depth : Nat) :
    Unnoticed point (runToDepth depth) (runDropping point depth) := by
  induction depth with
  | zero =>
      intro engine other alike steps
      exact alike.unheard
  | succ depth ih =>
      intro engine other alike steps
      exact alike.runAllDropping ih steps

/-- In the end the receiver is gone if the point was reached. -/
theorem runDropping_dropped (point depth : Nat) (steps : List Step) (engine : Engine) :
    (runDropping point depth steps engine).2.dropAt point =
      (runDropping point depth steps engine).2 := by
  have again : ∀ engine : Engine, (engine.dropAt point).dropAt point = engine.dropAt point := by
    intro engine
    simp [dropAt_eq]
  cases depth with
  | zero => exact again engine
  | succ depth =>
      change (runAllDropping point (runDropping point depth) steps engine).2.dropAt point =
        (runAllDropping point (runDropping point depth) steps engine).2
      induction steps generalizing engine with
      | nil => exact again engine
      | cons step rest ih => exact ih _

/-- Wherever in a history the receiver is dropped, the engine does not notice. -/
theorem runDropping_unnoticed (point depth : Nat) (steps : List Step) (engine : Engine) :
    Unaffected point engine (runToDepth depth steps engine)
      (runDropping point depth steps engine) := by
  have alike : Alike point engine engine := ⟨⟨_, _, rfl⟩, Or.inl rfl⟩
  rcases runDropping_unheard point depth alike steps with ⟨last, calls, otherCalls, entries⟩
  refine ⟨?_, entries⟩
  rw [← runDropping_dropped, last.dropAt_eq, otherCalls, ← calls, dropAt_eq]
  rfl

end Engine

end Storyboard
