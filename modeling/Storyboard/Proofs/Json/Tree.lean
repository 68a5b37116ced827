import Storyboard.Template.Resolve
/-!
# Places and parts of a tree

A path goes down a tree through members and items. Some of the objects on the way may be
actions; the places at an action and below it are guarded. A part of a tree is what stands
anywhere in it. Whatever else a key stores behind the first value, which no path leads to, is a
part as well.
-/

namespace Storyboard

namespace Json

/-- An array is settled once its items are, an object once its values are. -/
@[elab_as_elim]
theorem induction {motive : Json → Prop} (null : motive .null)
    (bool : ∀ value, motive (.bool value)) (int : ∀ value, motive (.int value))
    (float : ∀ value, motive (.float value)) (str : ∀ text, motive (.str text))
    (arr : ∀ items, (∀ item ∈ items, motive item) → motive (.arr items))
    (obj : ∀ fields : Fields, (∀ key value, (key, value) ∈ fields → motive value) →
      motive (.obj fields)) (value : Json) : motive value := by
  cases value with
  | null => exact null
  | bool value => exact bool value
  | int value => exact int value
  | float value => exact float value
  | str text => exact str text
  | arr items => exact arr items fun item _ => induction null bool int float str arr obj item
  | obj fields =>
      exact obj fields fun key value _ => induction null bool int float str arr obj value
termination_by sizeOf value
decreasing_by
  · have smaller := List.sizeOf_lt_of_mem ‹item ∈ items›
    simp only [Json.arr.sizeOf_spec]
    omega
  · have smaller := List.sizeOf_lt_of_mem ‹(key, value) ∈ fields›
    simp only [Json.obj.sizeOf_spec, Prod.mk.sizeOf_spec] at smaller ⊢
    omega

/-- Whether a value is an object that is marked as an action. -/
def isAction : Json → Bool
  | obj fields => Table.contains fields actionKey
  | _ => false

/-- Whether a value is neither a string nor has parts. -/
def isScalar : Json → Bool
  | null | bool _ | int _ | float _ => true
  | _ => false

/-! ### Places -/

/-- A step down a tree. -/
inductive Step where
  | member (key : String)
  | item (index : Nat)

def child? : Json → Step → Option Json
  | obj fields, .member key => Table.get? fields key
  | arr items, .item index => items[index]?
  | _, _ => none

/-- What stands at the end of a path. -/
def at? (value : Json) : List Step → Option Json
  | [] => some value
  | step :: rest => (value.child? step).bind fun child => child.at? rest

/-- The path leads to an action or to a place inside one. -/
def Guards (value : Json) (path : List Step) : Prop :=
  ∃ above action, above <+: path ∧ value.at? above = some action ∧ action.isAction = true

variable {value child part : Json} {step : Step} {rest : List Step}

theorem at?_cons_eq_some_iff :
    value.at? (step :: rest) = some part ↔
      ∃ child, value.child? step = some child ∧ child.at? rest = some part :=
  Option.bind_eq_some_iff

theorem guards_of_isAction (action : value.isAction = true) (path : List Step) :
    value.Guards path :=
  ⟨[], value, List.nil_prefix, rfl, action⟩

theorem isAction_of_not_guards {path : List Step} (unguarded : ¬value.Guards path)
    (found : value.at? path = some part) : part.isAction = false := by
  rw [← Bool.not_eq_true]
  intro action
  exact unguarded ⟨path, part, List.prefix_rfl, found, action⟩

/-- Below what is no action, a place is guarded if it is guarded from the next step on. -/
theorem guards_cons_iff (plain : value.isAction = false) (found : value.child? step = some child) :
    value.Guards (step :: rest) ↔ child.Guards rest := by
  constructor
  · rintro ⟨above, action, isPrefix, reached, isAction⟩
    cases above with
    | nil =>
        cases reached
        rw [plain] at isAction
        cases isAction
    | cons first above =>
        obtain ⟨rfl, below⟩ := List.cons_prefix_cons.1 isPrefix
        obtain ⟨next, same, onward⟩ := at?_cons_eq_some_iff.1 reached
        cases found.symm.trans same
        exact ⟨above, action, below, onward, isAction⟩
  · rintro ⟨above, action, below, onward, isAction⟩
    refine ⟨step :: above, action, List.cons_prefix_cons.2 ⟨rfl, below⟩, ?_, isAction⟩
    exact at?_cons_eq_some_iff.2 ⟨child, found, onward⟩

/-! ### Parts -/

/-- A part of a tree. With `outside`, one that no action has inside. -/
inductive HasPart (outside : Bool) : Json → Json → Prop where
  | self (value : Json) : HasPart outside value value
  | item {items : List Json} {item part : Json} (member : item ∈ items)
      (below : HasPart outside item part) : HasPart outside (.arr items) part
  | value {fields : Fields} {key : String} {value part : Json}
      (enters : outside = true → isAction (.obj fields) = false) (member : (key, value) ∈ fields)
      (below : HasPart outside value part) : HasPart outside (.obj fields) part

end Json

end Storyboard
