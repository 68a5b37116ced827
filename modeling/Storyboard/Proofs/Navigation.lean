import Storyboard.Navigation
/-!
# Back stacks

Each operation on a back stack, said of its frames from the top down: a push adds one in
front, going back drops some from the front and never the last. The bottom frame keeps its
flow under all of them.
-/

namespace Storyboard

namespace BackStack

variable {stack : BackStack} {frame : Frame}

theorem fromTop_ne_nil (stack : BackStack) : stack.fromTop ≠ [] := by
  simp [fromTop]

/-- The frame at the bottom, where the user started. -/
def bottom (stack : BackStack) : Frame := stack.fromTop.getLast stack.fromTop_ne_nil

@[simp]
theorem mem_frames : frame ∈ stack.frames ↔ frame ∈ stack.fromTop := by
  simp [frames]

theorem head?_frames (stack : BackStack) : stack.frames.head? = some stack.bottom := by
  rw [frames, List.head?_reverse, bottom, List.getLast?_eq_some_getLast]

@[simp]
theorem fromTop_ofRoot (root : Frame) : (ofRoot root).fromTop = [root] := rfl

@[simp]
theorem fromTop_push (stack : BackStack) (frame : Frame) :
    (stack.push frame).fromTop = frame :: stack.fromTop := rfl

@[simp]
theorem fromTop_replaceScreen (stack : BackStack) (screen : String) :
    (stack.replaceScreen screen).fromTop = ⟨stack.current.flow, screen⟩ :: stack.below := rfl

/-- Going back moves frames from the top of the stack to those removed. -/
theorem goBack_spec (stack : BackStack) (steps : Nat) :
    (stack.goBack steps).1 = stack.fromTop.take (min steps stack.below.length) ∧
      (stack.goBack steps).2.fromTop = stack.fromTop.drop (min steps stack.below.length) := by
  have remains : stack.fromTop.drop (min steps stack.below.length) ≠ [] := by
    rw [Ne, List.drop_eq_nil_iff]
    simp only [fromTop, List.length_cons]
    omega
  unfold goBack
  cases kept : stack.fromTop.drop (min steps stack.below.length) with
  | nil => exact (remains kept).elim
  | cons current below =>
      simp only [kept, true_and]
      rfl

/-- So many frames are removed from the top as asked for, but never the last, and those below
them stay. -/
theorem goBack_removes (stack : BackStack) (steps : Nat) :
    (stack.goBack steps).1.length = min steps (stack.depth - 1) ∧
      stack.fromTop = (stack.goBack steps).1 ++ (stack.goBack steps).2.fromTop := by
  rcases stack.goBack_spec steps with ⟨removed, left⟩
  rw [removed, left]
  refine ⟨?_, (List.take_append_drop _ _).symm⟩
  simp only [List.length_take, fromTop, List.length_cons, depth]
  omega

@[simp]
theorem holdsFlow_iff {flow : String} :
    stack.holdsFlow flow = true ↔ ∃ frame ∈ stack.fromTop, frame.flow = flow := by
  simp [holdsFlow]

/-- If nothing was removed, the stack is as it was. -/
theorem goBack_of_removed_nil {steps : Nat} (nothing : (stack.goBack steps).1 = []) :
    (stack.goBack steps).2 = stack := by
  obtain ⟨removed, kept⟩ := stack.goBack_spec steps
  rw [nothing] at removed
  have none : min steps stack.below.length = 0 := by
    have length := congrArg List.length removed
    simp only [List.length_nil, List.length_take, fromTop, List.length_cons] at length
    omega
  rw [none, List.drop_zero] at kept
  generalize (stack.goBack steps).2 = left at kept ⊢
  rcases left with ⟨current, below⟩
  rcases stack with ⟨top, rest⟩
  cases kept
  rfl

@[simp]
theorem bottom_push (stack : BackStack) (frame : Frame) :
    (stack.push frame).bottom = stack.bottom :=
  List.getLast_cons stack.fromTop_ne_nil

@[simp]
theorem bottom_goBack (stack : BackStack) (steps : Nat) :
    (stack.goBack steps).2.bottom = stack.bottom := by
  unfold bottom
  simp only [(stack.goBack_spec steps).2]
  exact List.getLast_drop _

theorem bottom_flow_replaceScreen (stack : BackStack) (screen : String) :
    (stack.replaceScreen screen).bottom.flow = stack.bottom.flow := by
  obtain ⟨current, below⟩ := stack
  cases below with
  | nil => rfl
  | cons next rest => rfl

theorem mem_of_mem_goBack {steps : Nat} (member : frame ∈ (stack.goBack steps).2.fromTop) :
    frame ∈ stack.fromTop := by
  rw [(stack.goBack_spec steps).2] at member
  exact List.mem_of_mem_drop member

end BackStack

end Storyboard
