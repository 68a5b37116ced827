import Mathlib.Data.List.Nodup
import Storyboard.Proofs.Run.Basic
/-!
# Places of a tree

The descriptors of a tree in document order, each with the way to it: a descriptor comes
before its continuations, the one for success first, and these before its next sibling. The
way identifies the descriptor, and whatever lies below a descriptor has its way as the end
of its own.
-/

namespace Storyboard

open Engine

namespace Engine

/-- A descriptor of a tree and the way to it, the last edge first. -/
structure Node where
  place : List Edge
  descriptor : Descriptor

end Engine

mutual

/-- A descriptor at a place and those below it. -/
def Descriptor.nodes (place : List Edge) : Descriptor → List Node
  | .mk action onSuccess onError =>
    ⟨place, .mk action onSuccess onError⟩ ::
      ((match onSuccess with
        | some next => next.nodes (.onSuccess :: place)
        | none => []) ++
      (match onError with
        | some next => next.nodes (.onError :: place)
        | none => []))
termination_by structural descriptor => descriptor

def Trigger.nodes (place : List Edge) : Trigger → List Node
  | .single descriptor => descriptor.nodes place
  | .chain descriptors => Descriptor.listNodes place 0 descriptors
termination_by structural trigger => trigger

def Descriptor.listNodes (place : List Edge) (index : Nat) : List Descriptor → List Node
  | [] => []
  | descriptor :: rest =>
    descriptor.nodes (.item index :: place) ++ Descriptor.listNodes place (index + 1) rest
termination_by structural descriptors => descriptors

end

/-- The descriptors of the continuation at an edge. -/
def Descriptor.nextNodes (descriptor : Descriptor) (place : List Edge) (edge : Edge) :
    List Node :=
  match descriptor.next? edge with
  | some next => next.nodes (edge :: place)
  | none => []

theorem Descriptor.nodes_eq (descriptor : Descriptor) (place : List Edge) :
    descriptor.nodes place =
      ⟨place, descriptor⟩ ::
        (descriptor.nextNodes place .onSuccess ++ descriptor.nextNodes place .onError) := by
  rcases descriptor with ⟨action, onSuccess, onError⟩
  cases onSuccess <;> cases onError <;> rw [Descriptor.nodes] <;> rfl

theorem Trigger.nodes_single (place : List Edge) (descriptor : Descriptor) :
    (Trigger.single descriptor).nodes place = descriptor.nodes place := by
  rw [Trigger.nodes]

theorem Trigger.nodes_chain (place : List Edge) (descriptors : List Descriptor) :
    (Trigger.chain descriptors).nodes place = Descriptor.listNodes place 0 descriptors := by
  rw [Trigger.nodes]

theorem Descriptor.listNodes_cons (place : List Edge) (index : Nat) (descriptor : Descriptor)
    (rest : List Descriptor) :
    Descriptor.listNodes place index (descriptor :: rest) =
      descriptor.nodes (.item index :: place) ++
        Descriptor.listNodes place (index + 1) rest := by
  rw [Descriptor.listNodes]

/-- The descriptors of a continuation keep their order. -/
theorem Descriptor.sublist_nextNodes {descriptor : Descriptor} {edge : Edge} {next : Trigger}
    (found : descriptor.next? edge = some next) (place : List Edge) :
    (next.nodes (edge :: place)).Sublist
      (descriptor.nextNodes place .onSuccess ++ descriptor.nextNodes place .onError) := by
  have nodes : next.nodes (edge :: place) = descriptor.nextNodes place edge := by
    simp only [Descriptor.nextNodes, found]
  rw [nodes]
  cases edge with
  | onSuccess => exact List.sublist_append_left _ _
  | onError => exact List.sublist_append_right _ _
  | item index => cases found

/-- A descriptor below another lies below one of its continuations. -/
theorem Descriptor.mem_nodes {descriptor : Descriptor} {place : List Edge} {node : Node} :
    node ∈ descriptor.nodes place ↔
      node = ⟨place, descriptor⟩ ∨
        ∃ edge next, descriptor.next? edge = some next ∧ node ∈ next.nodes (edge :: place) := by
  rw [Descriptor.nodes_eq, List.mem_cons, List.mem_append]
  constructor
  · intro member
    rcases member with same | success | failure
    · exact Or.inl same
    · right
      unfold nextNodes at success
      split at success
      · rename_i next found
        exact ⟨.onSuccess, next, found, success⟩
      · cases success
    · right
      unfold nextNodes at failure
      split at failure
      · rename_i next found
        exact ⟨.onError, next, found, failure⟩
      · cases failure
  · intro member
    rcases member with same | ⟨edge, next, found, below⟩
    · exact Or.inl same
    · right
      cases edge with
      | onSuccess =>
          left
          simp only [nextNodes, found]
          exact below
      | onError =>
          right
          simp only [nextNodes, found]
          exact below
      | item index => cases found

/-! ### Ways -/

section Ways

variable {place other way : List Edge} {edge side : Edge}

/-- Nothing lies below two siblings. -/
theorem eq_of_suffix_of_suffix (first : edge :: place <:+ way) (second : side :: place <:+ way) :
    edge = side := by
  have same : edge :: place = side :: place :=
    (List.suffix_of_suffix_length_le first second (by simp)).eq_of_length (by simp)
  exact (List.cons.inj same).1

theorem suffix_of_cons_suffix (below : edge :: place <:+ way) : place <:+ way :=
  (List.suffix_cons edge place).trans below

/-- A place is not below anything below it. -/
theorem not_cons_suffix (below : place <:+ way) : ¬edge :: way <:+ place := by
  intro above
  have longer := above.length_le
  have shorter := below.length_le
  simp only [List.length_cons] at longer
  omega

/-- What lies below a list from an index on. -/
def BelowList (place : List Edge) (index : Nat) (way : List Edge) : Prop :=
  ∃ position, index ≤ position ∧ .item position :: place <:+ way

theorem BelowList.suffix {index : Nat} (below : BelowList place index way) : place <:+ way := by
  rcases below with ⟨position, -, below⟩
  exact suffix_of_cons_suffix below

theorem BelowList.mono {index : Nat} (below : BelowList place (index + 1) way) :
    BelowList place index way := by
  rcases below with ⟨position, later, below⟩
  exact ⟨position, by omega, below⟩

/-- What lies below one item does not lie below a later one. -/
theorem not_belowList {index : Nat} (below : .item index :: place <:+ way) :
    ¬BelowList place (index + 1) way := by
  intro later
  rcases later with ⟨position, after, laterBelow⟩
  have same := eq_of_suffix_of_suffix below laterBelow
  simp only [Edge.item.injEq] at same
  omega

end Ways

theorem treeCases_below :
    TreeCases
      (fun descriptor => ∀ place, ∀ node ∈ descriptor.nodes place, place <:+ node.place)
      (fun trigger => ∀ place, ∀ node ∈ trigger.nodes place, place <:+ node.place)
      (fun descriptors => ∀ place index, ∀ node ∈ Descriptor.listNodes place index descriptors,
        BelowList place index node.place) where
  descriptor descriptor continues place node member := by
    rcases Descriptor.mem_nodes.1 member with rfl | ⟨edge, next, found, below⟩
    · exact List.suffix_refl place
    · exact suffix_of_cons_suffix (continues edge next found (edge :: place) node below)
  single descriptor below place node member := by
    rw [Trigger.nodes_single] at member
    exact below place node member
  chain descriptors below place node member := by
    rw [Trigger.nodes_chain] at member
    exact (below place 0 node member).suffix
  nil place index node member := by
    rw [Descriptor.listNodes] at member
    cases member
  cons descriptor rest first below place index node member := by
    rw [Descriptor.listNodes_cons] at member
    rcases List.mem_append.1 member with here | later
    · exact ⟨index, Nat.le_refl index, first (.item index :: place) node here⟩
    · exact (below place (index + 1) node later).mono

theorem Descriptor.suffix_of_mem_nodes {descriptor : Descriptor} {place : List Edge}
    {node : Node} (member : node ∈ descriptor.nodes place) : place <:+ node.place :=
  Descriptor.induction treeCases_below descriptor place node member

theorem Trigger.suffix_of_mem_nodes {trigger : Trigger} {place : List Edge} {node : Node}
    (member : node ∈ trigger.nodes place) : place <:+ node.place :=
  Trigger.induction treeCases_below trigger place node member

theorem Descriptor.belowList_of_mem_listNodes {descriptors : List Descriptor}
    {place : List Edge} {index : Nat} {node : Node}
    (member : node ∈ Descriptor.listNodes place index descriptors) :
    BelowList place index node.place :=
  Descriptor.listInduction treeCases_below descriptors place index node member

theorem treeCases_nodup :
    TreeCases
      (fun descriptor => ∀ place, ((descriptor.nodes place).map Node.place).Nodup)
      (fun trigger => ∀ place, ((trigger.nodes place).map Node.place).Nodup)
      (fun descriptors => ∀ place index,
        ((Descriptor.listNodes place index descriptors).map Node.place).Nodup) where
  descriptor descriptor continues place := by
    have below : ∀ edge, ∀ way ∈ (descriptor.nextNodes place edge).map Node.place,
        edge :: place <:+ way := by
      intro edge way member
      rcases List.mem_map.1 member with ⟨node, among, rfl⟩
      unfold Descriptor.nextNodes at among
      split at among
      · exact Trigger.suffix_of_mem_nodes among
      · cases among
    have distinct : ∀ edge, ((descriptor.nextNodes place edge).map Node.place).Nodup := by
      intro edge
      unfold Descriptor.nextNodes
      split
      · rename_i next found
        exact continues edge next found (edge :: place)
      · exact List.nodup_nil
    rw [Descriptor.nodes_eq, List.map_cons, List.map_append, List.nodup_cons]
    refine ⟨?_, ?_⟩
    · intro member
      rcases List.mem_append.1 member with success | failure
      · exact not_cons_suffix (List.suffix_refl place) (below _ _ success)
      · exact not_cons_suffix (List.suffix_refl place) (below _ _ failure)
    · apply List.Nodup.append (distinct .onSuccess) (distinct .onError)
      intro way success failure
      cases eq_of_suffix_of_suffix (below _ _ success) (below _ _ failure)
  single descriptor distinct place := by
    rw [Trigger.nodes_single]
    exact distinct place
  chain descriptors distinct place := by
    rw [Trigger.nodes_chain]
    exact distinct place 0
  nil place index := by
    rw [Descriptor.listNodes]
    exact List.nodup_nil
  cons descriptor rest first later place index := by
    rw [Descriptor.listNodes_cons, List.map_append]
    apply List.Nodup.append (first (.item index :: place)) (later place (index + 1))
    intro way here after
    rcases List.mem_map.1 here with ⟨node, hereNode, rfl⟩
    rcases List.mem_map.1 after with ⟨sibling, afterNode, same⟩
    apply not_belowList (Descriptor.suffix_of_mem_nodes hereNode)
    rw [← same]
    exact Descriptor.belowList_of_mem_listNodes afterNode

/-- The place of a descriptor identifies it. -/
theorem Trigger.nodup_places (trigger : Trigger) (place : List Edge) :
    ((trigger.nodes place).map Node.place).Nodup :=
  Trigger.induction treeCases_nodup trigger place

end Storyboard
