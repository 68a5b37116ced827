import Storyboard.Proofs.Library.Turns
/-!
# What a library holds to

Requests come, texts change, and loads that are under way take their turns. Whatever the order,
the library keeps under an identifier only a flow of that identifier, with a screen to open, and
lists what it keeps in order. A load that finds its flow asks for nothing. Any other asks for one
text, and what it keeps is what that text says, or nothing.

The induction is over the history; the invariant is on the table of flows that are kept. A load
that waits for its text stands as it is whatever comes between, so what it will take is what the
text says when it arrives.

Main result: `dependable_after`.
-/

namespace Storyboard

namespace Library

variable {library : Library} {id path : String} {flow : Flow}

/-! ### Flows that may be kept -/

/-- The text at a path describes this flow, under this identifier. -/
def Says (loader : Loader) (id path : String) (flow : Flow) : Prop :=
  ∃ text, loader path = .ok text ∧ Flow.parse id text = .ok flow ∧ flow.id = id

theorem readFlow_eq_ok_iff {loader : Loader} :
    readFlow loader id path = .ok flow ↔ Says loader id path flow := by
  unfold readFlow Says
  cases loader path with
  | error message => simp
  | ok text =>
      simp only [Except.ok.injEq, exists_eq_left']
      cases Flow.parse id text with
      | error fault => simp
      | ok other =>
          by_cases same : other.id = id
          · simp only [same, if_true, Except.ok.injEq]
            constructor
            · rintro rfl
              exact ⟨rfl, same⟩
            · exact fun described => described.1
          · simp only [same, if_false, Except.ok.injEq, reduceCtorEq, false_iff]
            rintro ⟨rfl, declared⟩
            exact same declared

/-- The flow may be kept under an identifier. -/
structure Owned (id : String) (flow : Flow) : Prop where
  own : flow.id = id
  screens : flow.screens ≠ []
  opens : ∃ screen, flow.initialScreen? = some screen ∧ flow.hasScreen screen = true

theorem Owned.of_text {loader : Loader} (described : Says loader id path flow) : Owned id flow := by
  rcases described with ⟨text, -, parsed, own⟩
  have screens : flow.screens ≠ [] := by
    unfold Flow.parse at parsed
    split at parsed
    · exact Flow.screens_ne_nil_of_ofJson parsed
    · cases parsed
  rcases Flow.exists_initialScreen? screens with ⟨screen, first⟩
  exact ⟨own, screens, screen, first, Flow.hasScreen_of_initialScreen? first⟩

/-- A table of flows that may be kept as they are. -/
structure Tidy (kept : Table Flow) : Prop where
  ordered : kept.Ordered
  owned : ∀ entry ∈ kept, Owned entry.1 entry.2

namespace Tidy

theorem nil : Tidy [] := ⟨.nil, nofun⟩

theorem put {kept : Table Flow} (tidy : Tidy kept) (owned : Owned id flow) :
    Tidy (kept.put id flow) := by
  refine ⟨tidy.ordered.put id flow, fun entry member => ?_⟩
  rcases Table.mem_put member with rfl | old
  · exact owned
  · exact tidy.owned entry old

theorem erase {kept : Table Flow} (tidy : Tidy kept) (id : String) : Tidy (kept.erase id) :=
  ⟨tidy.ordered.erase id, fun entry member => tidy.owned entry (Table.mem_of_mem_erase member)⟩

theorem loadFrom (tidy : Tidy library.kept) (id path : String) :
    Tidy (library.loadFrom id path).2.kept := by
  rcases loadFrom_cases library id path with
    ⟨flow, -, loaded⟩ | ⟨-, ⟨flow, read, loaded⟩ | ⟨fault, -, loaded⟩⟩
  · rw [loaded]
    exact tidy
  · rw [loaded]
    exact tidy.put (.of_text (readFlow_eq_ok_iff.1 read))
  · rw [loaded]
    exact tidy

theorem preload (tidy : Tidy library.kept) (ids : List String) :
    Tidy (library.preload ids).2.kept := by
  induction ids generalizing library with
  | nil => exact tidy
  | cons id rest ih =>
      rw [preload_cons_snd]
      exact ih (tidy.loadFrom id _)

theorem run (tidy : Tidy library.kept) (request : Step) : Tidy (request.run library).2.kept := by
  cases request with
  | load id => exact tidy.loadFrom id _
  | loadFrom id path => exact tidy.loadFrom id path
  | preload ids => exact tidy.preload ids
  | evict id =>
      cases id with
      | none => exact .nil
      | some id => exact tidy.erase id
  | _ => exact tidy

theorem advance (tidy : Tidy library.kept) (load : Load) :
    Tidy (load.advance library).2.kept := by
  rcases load.advance_cases library with
    ⟨-, _, -, turn⟩ | ⟨-, -, turn⟩ | ⟨-, flow, read, turn⟩ | ⟨-, _, -, turn⟩ | ⟨_, -, turn⟩
  · rw [turn]
    exact tidy
  · rw [turn]
    exact tidy
  · rw [turn]
    exact tidy.put (.of_text (readFlow_eq_ok_iff.1 read))
  · rw [turn]
    exact tidy
  · rw [turn]
    exact tidy

end Tidy

/-! ### Histories -/

namespace Desk

/-- What can happen to a library and to the loads from it. -/
inductive Event where
  | request (request : Step)
  /-- The texts change, any of them. -/
  | rewrite (loader : Loader)
  | start (id path : String)
  | turn (index : Nat)

/-- The event happens. -/
def take (desk : Desk) : Event → Desk
  | .request request => { desk with library := (request.run desk.library).2 }
  | .rewrite loader => { desk with library := { desk.library with loader } }
  | .start id path => { desk with loads := desk.loads ++ [{ id, path }] }
  | .turn index => desk.turn index

theorem tidy_take {desk : Desk} (tidy : Tidy desk.library.kept) (event : Event) :
    Tidy (desk.take event).library.kept := by
  cases event with
  | request request => exact tidy.run request
  | rewrite loader => exact tidy
  | start id path => exact tidy
  | turn index =>
      refine keep_turn (P := fun desk => Tidy desk.library.kept) index tidy ?_
      intro load _
      exact tidy.advance load

/-- The event is no turn of this load. -/
def Event.Spares (index : Nat) : Event → Prop
  | .turn other => other ≠ index
  | _ => True

/-- A load stands as it is while others take turns and the library changes. -/
theorem getElem?_take {desk : Desk} {index : Nat} {load : Load} {event : Event}
    (spares : event.Spares index) (found : desk.loads[index]? = some load) :
    (desk.take event).loads[index]? = some load := by
  cases event with
  | request request => exact found
  | rewrite loader => exact found
  | start id path =>
      have bound := (List.getElem?_eq_some_iff.1 found).1
      exact (List.getElem?_append_left bound).trans found
  | turn other =>
      refine keep_turn (P := fun desk => desk.loads[index]? = some load) other found ?_
      intro another _
      exact (List.getElem?_set_ne spares).trans found

theorem getElem?_foldl_take {desk : Desk} {index : Nat} {load : Load} {events : List Event}
    (spare : ∀ event ∈ events, event.Spares index) (found : desk.loads[index]? = some load) :
    (events.foldl take desk).loads[index]? = some load := by
  induction events generalizing desk with
  | nil => exact found
  | cons event rest ih =>
      refine ih (fun other among => spare other (List.mem_cons_of_mem event among)) ?_
      exact getElem?_take (spare event List.mem_cons_self) found

theorem tidy_foldl_take {desk : Desk} (tidy : Tidy desk.library.kept) (events : List Event) :
    Tidy (events.foldl take desk).library.kept := by
  induction events generalizing desk with
  | nil => exact tidy
  | cons event rest ih => exact ih (tidy_take tidy event)

end Desk

/-! ### Promises -/

/-- What becomes of a library and a load when a text arrives. -/
structure Takes (library : Library) (id path : String) (result : Except Fault Flow)
    (after : Library) : Prop where
  gives : ∀ flow, result = .ok flow ↔ Says library.loader id path flow
  adds : ∀ flow, result = .ok flow → ∀ other,
    after.kept.get? other = if other = id then some flow else library.kept.get? other
  fails : ∀ fault, result = .error fault → after = library
  untouched : after = { library with kept := after.kept }

theorem takes_of_read (read : readFlow library.loader id path = .ok flow) :
    Takes library id path (.ok flow) { library with kept := library.kept.put id flow } := by
  refine ⟨fun other => ?_, fun other same asked => ?_, nofun, rfl⟩
  · rw [← readFlow_eq_ok_iff, read]
  · cases same
    split
    · rename_i own
      rw [own, Table.get?_put_self]
    · rename_i distinct
      exact Table.get?_put_of_ne distinct _ _

theorem takes_of_unread {fault : Fault} (unread : readFlow library.loader id path = .error fault) :
    Takes library id path (.error fault) library := by
  refine ⟨fun flow => ?_, nofun, fun _ _ => rfl, rfl⟩
  rw [← readFlow_eq_ok_iff, unread]

/-- What a load does that nothing comes between. -/
structure Loads (library : Library) (id path : String) : Prop where
  hit : ∀ flow, library.kept.get? id = some flow →
    library.loadFrom id path = (.ok flow, library)
  miss : library.kept.get? id = none →
    Takes { library with reads := library.reads ++ [path] } id path
      (library.loadFrom id path).1 (library.loadFrom id path).2

theorem loads (library : Library) (id path : String) : Loads library id path := by
  refine ⟨fun flow found => loadFrom_of_kept path found, fun absent => ?_⟩
  cases read : readFlow library.loader id path with
  | ok flow =>
      rw [loadFrom_of_read absent read]
      exact takes_of_read read
  | error fault =>
      rw [loadFrom_of_unread absent read]
      exact takes_of_unread read

/-- What becomes of a load that is about to take its first turn, whatever happens until the
text arrives that it asks for. -/
structure Carries (desk : Desk) (index : Nat) (load : Load) : Prop where
  hit : ∀ flow, desk.library.kept.get? load.id = some flow →
    (desk.turn index).library = desk.library ∧
      (desk.turn index).loads[index]? = some { load with stage := .done (.ok flow) }
  miss : desk.library.kept.get? load.id = none →
    (desk.turn index).library =
        { desk.library with reads := desk.library.reads ++ [load.path] } ∧
      ∀ events : List Desk.Event, (∀ event ∈ events, event.Spares index) →
        let later := events.foldl Desk.take (desk.turn index)
        ∃ result, (later.turn index).loads[index]? = some { load with stage := .done result } ∧
          Takes later.library load.id load.path result (later.turn index).library

section Carries

variable {desk : Desk} {index : Nat} {load next : Load} {after : Library}

theorem turn_of_advance (found : desk.loads[index]? = some load)
    (advanced : load.advance desk.library = (next, after)) :
    (desk.turn index).library = after ∧ (desk.turn index).loads[index]? = some next := by
  rw [Desk.turn_of_some found, advanced]
  exact ⟨rfl, List.getElem?_set_self (List.getElem?_eq_some_iff.1 found).1⟩

/-- The text of a load arrives. -/
theorem takes_of_waiting (found : desk.loads[index]? = some { load with stage := .waiting }) :
    ∃ result, (desk.turn index).loads[index]? = some { load with stage := .done result } ∧
      Takes desk.library load.id load.path result (desk.turn index).library := by
  cases read : readFlow desk.library.loader load.id load.path with
  | ok flow =>
      rcases turn_of_advance found (Load.advance_of_read rfl read) with ⟨kept, ended⟩
      rw [kept]
      exact ⟨.ok flow, ended, takes_of_read read⟩
  | error fault =>
      rcases turn_of_advance found (Load.advance_of_unread rfl read) with ⟨kept, ended⟩
      rw [kept]
      exact ⟨.error fault, ended, takes_of_unread read⟩

theorem carries (found : desk.loads[index]? = some load) (due : load.stage = .due) :
    Carries desk index load := by
  refine ⟨fun flow kept => ?_, fun absent => ?_⟩
  · exact turn_of_advance found (Load.advance_of_kept due kept)
  · rcases turn_of_advance found (Load.advance_of_absent due absent) with ⟨asked, waiting⟩
    refine ⟨asked, fun events spare => ?_⟩
    exact takes_of_waiting (Desk.getElem?_foldl_take spare waiting)

end Carries

/-- What forgetting flows does. -/
structure Evicts (library : Library) : Prop where
  one : ∀ id other, (library.evict (some id)).kept.get? other =
    if other = id then none else library.kept.get? other
  all : (library.evict none).kept = []
  untouched : ∀ id, library.evict id = { library with kept := (library.evict id).kept }

theorem evicts (library : Library) : Evicts library := by
  refine ⟨fun id other => ?_, rfl, fun id => ?_⟩
  · split
    · rename_i same
      rw [same]
      exact Table.get?_erase_self _ _
    · rename_i distinct
      exact Table.get?_erase_of_ne distinct _
  · cases id <;> rfl

/-- What the library says of the flows that it keeps. -/
structure Lists (library : Library) : Prop where
  ascending : library.stats.keys.Pairwise (· < ·)
  count : library.stats.count = library.stats.keys.length
  found : ∀ id, id ∈ library.stats.keys ↔
    ∃ flow, (Step.get id).run library = (.found (some flow), library)
  flag : ∀ id, id ∈ library.stats.keys ↔ (Step.isKept id).run library = (.flag true, library)

theorem lists (ordered : library.kept.Ordered) : Lists library := by
  have listed : ∀ id, id ∈ library.stats.keys ↔ library.kept.contains id = true :=
    fun id => Table.contains_iff.symm
  refine ⟨List.pairwise_map.2 ordered, ?_, fun id => ?_, fun id => ?_⟩
  · simp only [stats, Table.keys, List.length_map]
  · rw [listed, Table.contains, Option.isSome_iff_exists]
    simp only [Step.run, Prod.mk.injEq, Answer.found.injEq, and_true]
  · rw [listed]
    simp only [Step.run, Prod.mk.injEq, Answer.flag.injEq, and_true]

/-- What a library holds to at every moment, with the loads from it that are under way. -/
structure Dependable (desk : Desk) : Prop where
  entries : ∀ entry ∈ desk.library.kept, Owned entry.1 entry.2
  lists : Lists desk.library
  loads : ∀ loader id path, Loads { desk.library with loader } id path
  carries : ∀ index load, desk.loads[index]? = some load → load.stage = .due →
    Carries desk index load
  rests : ∀ index load result, desk.loads[index]? = some load → load.stage = .done result →
    desk.turn index = desk
  evicts : Evicts desk.library

/-- After every history a library holds to what it promises. -/
theorem dependable_after (sources : Sources) (loader : Loader) (events : List Desk.Event) :
    Dependable (events.foldl Desk.take { library := { sources, loader } }) := by
  have tidy := @Desk.tidy_foldl_take { library := { sources, loader } } .nil events
  refine ⟨tidy.owned, Library.lists tidy.ordered, ?_, ?_, ?_, Library.evicts _⟩
  · intro loader id path
    exact Library.loads _ id path
  · intro index load found due
    exact Library.carries found due
  · intro index load result found done
    exact Desk.turn_of_done found done

end Library

end Storyboard
