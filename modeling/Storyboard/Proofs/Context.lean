import Storyboard.Engine.Context
/-!
# Writers of a context

What writers do to the navigation and to the session data. A written key is the only one
that changes, and going back leaves the data alone unless it is told to clear it.
-/

namespace Storyboard

namespace Session

variable {session : Session} {key : String}

theorem get?_set_of_ne {other : String} (distinct : other ≠ key) (session : Session)
    (value : Json) : (session.set key value).get? other = session.get? other :=
  Table.get?_put_of_ne distinct session.data value

/-- A merge changes only the keys that it gives. -/
theorem get?_merge_of_not_mem {update : Fields} (absent : key ∉ (session.merge update).1) :
    (session.merge update).2.get? key = session.get? key := by
  unfold merge at absent ⊢
  cases empty : update.isEmpty with
  | true => rfl
  | false =>
      simp only [empty] at absent
      exact Table.get?_putAll_of_not_mem absent session.data

theorem get?_remove_of_ne {other : String} (distinct : other ≠ key) (session : Session) :
    (session.remove key).2.get? other = session.get? other := by
  unfold remove
  cases session.get? key with
  | some value => exact Table.get?_erase_of_ne distinct session.data
  | none => rfl

@[simp]
theorem data_clear (session : Session) : session.clear.data = [] := by
  unfold clear
  split
  · rename_i empty
    exact List.isEmpty_iff.1 empty
  · rfl

@[simp]
theorem get?_clear (session : Session) (key : String) : session.clear.get? key = none := by
  simp [get?]

end Session

namespace Context

@[simp]
theorem goBack_navigation (context : Context) (steps : Nat) (clearData : Bool) :
    (context.goBack steps clearData).2.navigation = (context.navigation.goBack steps).2 := by
  cases clearData with
  | true => rfl
  | false => rfl

/-- The frames removed do not depend on whether the data is cleared. -/
@[simp]
theorem goBack_fst (context : Context) (steps : Nat) (clearData : Bool) :
    (context.goBack steps clearData).1 = (context.navigation.goBack steps).1 := by
  cases clearData with
  | true => rfl
  | false => rfl

/-- Going back keeps the session or clears it. -/
@[simp]
theorem goBack_session (context : Context) (steps : Nat) (clearData : Bool) :
    (context.goBack steps clearData).2.session =
      if clearData then context.session.clear else context.session := by
  cases clearData with
  | true => rfl
  | false => rfl

/-- Going back keeps the flow states, or drops those of the flows that it left. -/
theorem goBack_flowStates (context : Context) (steps : Nat) (clearData : Bool) :
    (context.goBack steps clearData).2.flowStates =
      if clearData then
        context.flowStates.restrict (context.goBack steps clearData).2.navigation.holdsFlow
      else context.flowStates := by
  cases clearData with
  | true => rfl
  | false => rfl

end Context

end Storyboard
