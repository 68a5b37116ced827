import Mathlib.Data.Nat.PSub
import Storyboard.Proofs.Navigation
/-!
# Back stacks in storage

The frames of a stack can be stored by themselves, the root first, and the current one found
by its position. Stored frames might be none at all, and a position might lie outside them.
Here each step that could go wrong in that way is one that may fail: a difference of numbers,
a look-up, a cut. Whatever is done to a stack that starts out as a root, none of them fails.

Main result: `run_accounted`.
-/

namespace Storyboard

namespace BackStack

/-- What can be done to a stack. -/
inductive Change where
  | push (frame : Frame)
  | pop
  | goBack (steps : Nat)
  | replaceScreen (screen : String)
  | reset (root : Frame)

/-- The frames that a change gives back, the latest first, and the stack after it. -/
def make (stack : BackStack) : Change → List Frame × BackStack
  | .push frame => ([], stack.push frame)
  | .pop => (stack.pop.1.toList, stack.pop.2)
  | .goBack steps => stack.goBack steps
  | .replaceScreen screen => ([], stack.replaceScreen screen)
  | .reset root => ([], ofRoot root)

/-- What changes made in order give back, and the stack after them. -/
def run (stack : BackStack) : List Change → List (List Frame) × BackStack
  | [] => ([], stack)
  | change :: rest =>
    let (removed, next) := stack.make change
    let (answers, last) := next.run rest
    (removed :: answers, last)

/-! ### Positions -/

namespace Stored

/-- The frames before a position and those from it on. -/
def splitOff? (frames : List Frame) (position : Nat) : Option (List Frame × List Frame) :=
  if position ≤ frames.length then some (frames.take position, frames.drop position) else none

/-- The frame at the last position. -/
def current? (frames : List Frame) : Option Frame := do
  let last ← frames.length.psub 1
  frames[last]?

def pop (frames : List Frame) : Option Frame × List Frame :=
  if 1 < frames.length then (frames.getLast?, frames.dropLast) else (none, frames)

/-- Cuts the stored frames before the first that is removed. -/
def goBack? (frames : List Frame) (steps : Nat) : Option (List Frame × List Frame) := do
  let removable ← frames.length.psub 1
  let position ← frames.length.psub (min steps removable)
  let (kept, removed) ← splitOff? frames position
  return (removed.reverse, kept)

def replaceScreen? (frames : List Frame) (screen : String) : Option (List Frame) := do
  let last ← frames.length.psub 1
  let current ← frames[last]?
  return frames.set last { current with screen }

/-- `make` on stored frames. -/
def make? (frames : List Frame) : Change → Option (List Frame × List Frame)
  | .push frame => some ([], frames ++ [frame])
  | .pop => some ((pop frames).1.toList, (pop frames).2)
  | .goBack steps => goBack? frames steps
  | .replaceScreen screen => (replaceScreen? frames screen).map ([], ·)
  | .reset root => some ([], [root])

/-- `run` on stored frames. -/
def run? (frames : List Frame) : List Change → Option (List (List Frame) × List Frame)
  | [] => some ([], frames)
  | change :: rest => do
    let (removed, next) ← make? frames change
    let (answers, last) ← run? next rest
    return (removed :: answers, last)

end Stored

/-! ### Frames, the root first -/

@[simp]
theorem length_frames (stack : BackStack) : stack.frames.length = stack.depth := by
  simp [frames, fromTop, depth]

theorem frames_eq (stack : BackStack) : stack.frames = stack.below.reverse ++ [stack.current] := by
  simp [frames, fromTop]

@[simp]
theorem frames_ofRoot (root : Frame) : (ofRoot root).frames = [root] := rfl

theorem frames_push (stack : BackStack) (frame : Frame) :
    (stack.push frame).frames = stack.frames ++ [frame] := by
  simp [frames]

theorem frames_goBack (stack : BackStack) (steps : Nat) :
    stack.frames = (stack.goBack steps).2.frames ++ (stack.goBack steps).1.reverse := by
  rw [frames, frames, ← List.reverse_append, ← (stack.goBack_removes steps).2]

theorem goBack_zero (stack : BackStack) : stack.goBack 0 = ([], stack) := by
  simp [goBack, fromTop]

theorem goBack_root (root : Frame) (steps : Nat) :
    goBack ⟨root, []⟩ steps = ([], ⟨root, []⟩) := by
  simp [goBack, fromTop]

/-- Above the root, the first step back takes the current frame and the others go on from the
next one. -/
theorem goBack_succ (current next : Frame) (rest : List Frame) (steps : Nat) :
    goBack ⟨current, next :: rest⟩ (steps + 1) =
      (current :: (goBack ⟨next, rest⟩ steps).1, (goBack ⟨next, rest⟩ steps).2) := by
  have more : min (steps + 1) (next :: rest).length = min steps rest.length + 1 := by
    simp only [List.length_cons]
    omega
  simp only [goBack, fromTop, more, List.drop_succ_cons, List.take_succ_cons]
  cases kept : (next :: rest).drop (min steps rest.length) with
  | nil =>
      rw [List.drop_eq_nil_iff, List.length_cons] at kept
      omega
  | cons current below => rfl

/-- So many steps back are as many pops. -/
theorem goBack_eq_pops (stack : BackStack) (steps : Nat) :
    stack.goBack steps = ((stack.run (.replicate steps .pop)).1.flatten,
      (stack.run (.replicate steps .pop)).2) := by
  induction steps generalizing stack with
  | zero => exact stack.goBack_zero
  | succ steps ih =>
      rcases stack with ⟨current, below⟩
      rw [List.replicate_succ, run]
      cases below with
      | nil =>
          -- At the root neither moves any more.
          have stays := ih ⟨current, []⟩
          rw [goBack_root] at stays ⊢
          simpa [make, pop] using stays
      | cons next rest =>
          rw [goBack_succ, ih]
          rfl

/-! ### Stored frames -/

namespace Stored

theorem psub_length (stack : BackStack) : stack.frames.length.psub 1 = some stack.below.length := by
  rw [length_frames, depth, Nat.psub_eq_some]

theorem getElem?_last (stack : BackStack) :
    stack.frames[stack.below.length]? = some stack.current := by
  rw [frames_eq, List.getElem?_append_right (by simp)]
  simp

@[simp]
theorem current?_frames (stack : BackStack) : current? stack.frames = some stack.current := by
  rw [current?, psub_length]
  exact getElem?_last stack

@[simp]
theorem pop_frames (stack : BackStack) :
    pop stack.frames = (stack.pop.1, stack.pop.2.frames) := by
  rcases stack with ⟨current, below⟩
  cases below with
  | nil => rfl
  | cons next rest => simp [pop, BackStack.pop, frames_eq]

@[simp]
theorem replaceScreen?_frames (stack : BackStack) (screen : String) :
    replaceScreen? stack.frames screen = some (stack.replaceScreen screen).frames := by
  rw [replaceScreen?, psub_length, Option.bind_eq_bind, Option.bind_some, getElem?_last]
  simp [BackStack.replaceScreen, frames_eq]

@[simp]
theorem goBack?_frames (stack : BackStack) (steps : Nat) :
    goBack? stack.frames steps =
      some ((stack.goBack steps).1, (stack.goBack steps).2.frames) := by
  have parts := stack.frames_goBack steps
  have count := (stack.goBack_removes steps).1
  -- The cut is where the frames that are kept end.
  have cut : stack.frames.length.psub (min steps stack.below.length) =
      some (stack.goBack steps).2.frames.length := by
    have lengths := congrArg List.length parts
    rw [List.length_append, List.length_reverse, count] at lengths
    rw [Nat.psub_eq_some, lengths, depth, Nat.add_sub_cancel]
  have splits : splitOff? stack.frames (stack.goBack steps).2.frames.length =
      some ((stack.goBack steps).2.frames, (stack.goBack steps).1.reverse) := by
    simp [splitOff?, parts]
  simp only [goBack?, psub_length, Option.bind_eq_bind, Option.bind_some, cut, splits,
    List.reverse_reverse]
  rfl

theorem make?_frames (stack : BackStack) (change : Change) :
    make? stack.frames change = some ((stack.make change).1, (stack.make change).2.frames) := by
  cases change with
  | push frame => simp [make?, make, frames_push]
  | pop => simp [make?, make]
  | goBack steps => simp [make?, make]
  | replaceScreen screen => simp [make?, make]
  | reset root => rfl

theorem run?_frames (stack : BackStack) (changes : List Change) :
    run? stack.frames changes = some ((stack.run changes).1, (stack.run changes).2.frames) := by
  induction changes generalizing stack with
  | nil => rfl
  | cons change rest ih => simp [run?, run, make?_frames, ih]

end Stored

/-! ### Accounts -/

/-- The frames put on a stack and taken off it since its latest root was set. -/
structure Tally where
  pushed : Nat := 0
  removed : Nat := 0

/-- The tally after a change that gave frames back. -/
def Tally.after (tally : Tally) (removed : List Frame) : Change → Tally
  | .push _ => { tally with pushed := tally.pushed + 1 }
  | .pop | .goBack _ => { tally with removed := tally.removed + removed.length }
  | .replaceScreen _ => tally
  | .reset _ => {}

/-- The tally after changes that each gave frames back. -/
def Tally.count (tally : Tally) (changes : List Change) (answers : List (List Frame)) : Tally :=
  (changes.zip answers).foldl (fun tally step => tally.after step.2 step.1) tally

section Changes

variable {stack : BackStack}

theorem make_pop (stack : BackStack) : stack.make .pop = stack.goBack 1 := by
  have one := stack.goBack_eq_pops 1
  simpa [run] using one.symm

theorem depth_goBack (stack : BackStack) (steps : Nat) :
    stack.depth = (stack.goBack steps).2.depth + (stack.goBack steps).1.length := by
  have lengths := congrArg List.length (stack.frames_goBack steps)
  simpa using lengths

/-- A change keeps the balance of a tally. -/
theorem depth_make (stack : BackStack) (change : Change) {tally : Tally}
    (balance : stack.depth + tally.removed = 1 + tally.pushed) :
    (stack.make change).2.depth + (tally.after (stack.make change).1 change).removed =
      1 + (tally.after (stack.make change).1 change).pushed := by
  cases change with
  | push frame =>
      simp only [make, Tally.after, push, depth, fromTop, List.length_cons] at balance ⊢
      omega
  | pop =>
      have parts := stack.depth_goBack 1
      rw [make_pop]
      simp only [Tally.after]
      omega
  | goBack steps =>
      have parts := stack.depth_goBack steps
      simp only [make, Tally.after]
      omega
  | replaceScreen screen => exact balance
  | reset root => rfl

theorem depth_run (stack : BackStack) (changes : List Change) {tally : Tally}
    (balance : stack.depth + tally.removed = 1 + tally.pushed) :
    (stack.run changes).2.depth + (tally.count changes (stack.run changes).1).removed =
      1 + (tally.count changes (stack.run changes).1).pushed := by
  induction changes generalizing stack tally with
  | nil => exact balance
  | cons change rest ih => exact ih _ (stack.depth_make change balance)

/-- A change that leaves more frames than the lowest few has not touched these. -/
theorem take_frames_make {change : Change} {kept : Nat}
    (above : kept + 1 ≤ (stack.make change).2.depth) :
    (stack.make change).2.frames.take kept = stack.frames.take kept := by
  have back : ∀ steps, kept + 1 ≤ (stack.goBack steps).2.depth →
      (stack.goBack steps).2.frames.take kept = stack.frames.take kept := by
    intro steps above
    rw [stack.frames_goBack steps, List.take_append_of_le_length]
    rw [length_frames]
    omega
  cases change with
  | push frame =>
      simp only [make, push, depth, fromTop, List.length_cons] at above
      simp only [make, frames_push]
      rw [List.take_append_of_le_length]
      simp only [length_frames, depth]
      omega
  | pop =>
      rw [make_pop] at above ⊢
      exact back 1 above
  | goBack steps => exact back steps above
  | replaceScreen screen =>
      have below : kept ≤ stack.below.reverse.length := by
        simp only [make, replaceScreen, depth] at above
        simp only [List.length_reverse]
        omega
      simp only [make, replaceScreen, frames_eq]
      rw [List.take_append_of_le_length below, List.take_append_of_le_length below]
  | reset root =>
      have none : kept = 0 := by
        simp only [make, ofRoot, depth, List.length_nil] at above
        omega
      simp [none]

theorem take_frames_run {changes : List Change} {kept : Nat}
    (above : ∀ made, made ≠ [] → made <+: changes → kept + 1 ≤ (stack.run made).2.depth) :
    (stack.run changes).2.frames.take kept = stack.frames.take kept := by
  induction changes generalizing stack with
  | nil => rfl
  | cons change rest ih =>
      have first : kept + 1 ≤ (stack.make change).2.depth :=
        above [change] (List.cons_ne_nil _ _) (List.prefix_append [change] rest)
      rw [← take_frames_make first]
      refine ih fun made _ first => ?_
      exact above (change :: made) (List.cons_ne_nil _ _) ((List.prefix_cons_inj change).2 first)

end Changes

/-- What is promised of a stack that was a root before changes were made to it. -/
structure Accounted (root : Frame) (changes : List Change) (answers : List (List Frame))
    (stack : BackStack) : Prop where
  /-- In storage nothing fails on the way, and neither does a look at the current frame. -/
  stored : Stored.run? [root] changes = some (answers, stack.frames)
  current : Stored.current? stack.frames = some stack.current
  nonempty : stack.frames ≠ []
  depth : stack.depth = stack.frames.length
  balance : stack.depth + (Tally.count {} changes answers).removed =
    1 + (Tally.count {} changes answers).pushed
  /-- Going back is the same as popping so many times, at the root and beyond it too. -/
  pops : ∀ steps, stack.goBack steps = ((stack.run (.replicate steps .pop)).1.flatten,
    (stack.run (.replicate steps .pop)).2)
  /-- The lowest frames stay as long as there is one above them. -/
  lowest : ∀ kept further,
    (∀ made, made ≠ [] → made <+: further → kept + 1 ≤ (stack.run made).2.depth) →
      (stack.run further).2.frames.take kept = stack.frames.take kept

/-- Whatever is done to a stack that starts out as a root, its frames are accounted for. -/
theorem run_accounted (root : Frame) (changes : List Change) :
    Accounted root changes ((ofRoot root).run changes).1 ((ofRoot root).run changes).2 where
  stored := Stored.run?_frames (ofRoot root) changes
  current := Stored.current?_frames _
  nonempty := by simp [frames_eq]
  depth := (length_frames _).symm
  balance := (ofRoot root).depth_run changes rfl
  pops := goBack_eq_pops _
  lowest _ _ := take_frames_run

end BackStack

end Storyboard
