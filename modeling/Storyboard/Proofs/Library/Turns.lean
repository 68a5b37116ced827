import Storyboard.Proofs.Library
/-!
# Loads under way

A load has to wait for a text, and meanwhile others go on. It takes turns: it looks for the
flow among those that are kept and asks for the text if there is none, then it takes the text
that arrives. A load that nothing comes between is `Library.loadFrom`.

What a turn does is said once, by the stage that the load is at. Every load comes to its end in
two turns, whatever happens between them.
-/

namespace Storyboard

namespace Library

/-- How far a load has come. -/
inductive Stage where
  | due
  /-- The text was asked for. -/
  | waiting
  | done (result : Except Fault Flow)

/-- How many turns a load needs at most. -/
def Stage.turns : Stage → Nat
  | due => 2
  | waiting => 1
  | done _ => 0

theorem Stage.turns_le (stage : Stage) : stage.turns ≤ 2 := by
  cases stage <;> simp [turns]

theorem Stage.done_of_turns {stage : Stage} (none : stage.turns = 0) :
    ∃ result, stage = .done result := by
  cases stage with
  | done result => exact ⟨result, rfl⟩
  | _ => cases none

/-- A load of a flow from a path. -/
structure Load where
  id : String
  path : String
  stage : Stage := .due

namespace Load

/-- The load takes a turn. The text that arrives is the one that the path leads to by then. -/
def advance (load : Load) (library : Library) : Load × Library :=
  match load.stage with
  | .due =>
    match library.kept.get? load.id with
    | some flow => ({ load with stage := .done (.ok flow) }, library)
    | none =>
      ({ load with stage := .waiting }, { library with reads := library.reads ++ [load.path] })
  | .waiting =>
    match readFlow library.loader load.id load.path with
    | .ok flow =>
      ({ load with stage := .done (.ok flow) },
        { library with kept := library.kept.put load.id flow })
    | .error fault => ({ load with stage := .done (.error fault) }, library)
  | .done _ => (load, library)

variable {load : Load} {library : Library}

theorem advance_of_kept {flow : Flow} (due : load.stage = .due)
    (found : library.kept.get? load.id = some flow) :
    load.advance library = ({ load with stage := .done (.ok flow) }, library) := by
  simp only [advance, due, found]

theorem advance_of_absent (due : load.stage = .due)
    (absent : library.kept.get? load.id = none) :
    load.advance library =
      ({ load with stage := .waiting },
        { library with reads := library.reads ++ [load.path] }) := by
  simp only [advance, due, absent]

theorem advance_of_read {flow : Flow} (waiting : load.stage = .waiting)
    (read : readFlow library.loader load.id load.path = .ok flow) :
    load.advance library =
      ({ load with stage := .done (.ok flow) },
        { library with kept := library.kept.put load.id flow }) := by
  simp only [advance, waiting, read]

theorem advance_of_unread {fault : Fault} (waiting : load.stage = .waiting)
    (read : readFlow library.loader load.id load.path = .error fault) :
    load.advance library = ({ load with stage := .done (.error fault) }, library) := by
  simp only [advance, waiting, read]

theorem advance_of_done {result : Except Fault Flow} (done : load.stage = .done result) :
    load.advance library = (load, library) := by
  simp only [advance, done]

/-- What a turn comes to. -/
theorem advance_cases (load : Load) (library : Library) :
    (load.stage = .due ∧ ∃ flow, library.kept.get? load.id = some flow ∧
        load.advance library = ({ load with stage := .done (.ok flow) }, library)) ∨
      (load.stage = .due ∧ library.kept.get? load.id = none ∧
        load.advance library =
          ({ load with stage := .waiting },
            { library with reads := library.reads ++ [load.path] })) ∨
      (load.stage = .waiting ∧ ∃ flow,
        readFlow library.loader load.id load.path = .ok flow ∧
          load.advance library =
            ({ load with stage := .done (.ok flow) },
              { library with kept := library.kept.put load.id flow })) ∨
      (load.stage = .waiting ∧ ∃ fault,
        readFlow library.loader load.id load.path = .error fault ∧
          load.advance library = ({ load with stage := .done (.error fault) }, library)) ∨
      ∃ result, load.stage = .done result ∧ load.advance library = (load, library) := by
  cases stage : load.stage with
  | due =>
      cases found : library.kept.get? load.id with
      | some flow => exact Or.inl ⟨rfl, flow, rfl, advance_of_kept stage found⟩
      | none => exact Or.inr (Or.inl ⟨rfl, rfl, advance_of_absent stage found⟩)
  | waiting =>
      right
      right
      cases read : readFlow library.loader load.id load.path with
      | ok flow => exact Or.inl ⟨rfl, flow, rfl, advance_of_read stage read⟩
      | error fault => exact Or.inr (Or.inl ⟨rfl, fault, rfl, advance_of_unread stage read⟩)
  | done result =>
      exact Or.inr (Or.inr (Or.inr (Or.inr ⟨result, rfl, advance_of_done stage⟩)))

/-- What no turn changes. -/
theorem advance_frame (load : Load) (library : Library) :
    (load.advance library).1.id = load.id ∧
      (load.advance library).2.sources = library.sources ∧
      (load.advance library).2.loader = library.loader := by
  rcases load.advance_cases library with
    ⟨-, _, -, turn⟩ | ⟨-, -, turn⟩ | ⟨-, _, -, turn⟩ | ⟨-, _, -, turn⟩ | ⟨_, -, turn⟩
  all_goals
    rw [turn]
    exact ⟨rfl, rfl, rfl⟩

@[simp] theorem advance_id (load : Load) (library : Library) :
    (load.advance library).1.id = load.id :=
  (load.advance_frame library).1

@[simp] theorem advance_sources (load : Load) (library : Library) :
    (load.advance library).2.sources = library.sources :=
  (load.advance_frame library).2.1

@[simp] theorem advance_loader (load : Load) (library : Library) :
    (load.advance library).2.loader = library.loader :=
  (load.advance_frame library).2.2

/-- A turn brings a load closer to its end. -/
theorem turns_advance_le (load : Load) (library : Library) :
    (load.advance library).1.stage.turns ≤ load.stage.turns - 1 := by
  rcases load.advance_cases library with
    ⟨due, _, -, turn⟩ | ⟨due, -, turn⟩ | ⟨waiting, _, -, turn⟩ | ⟨waiting, _, -, turn⟩ |
      ⟨_, done, turn⟩
  · rw [turn, due]
    exact Nat.zero_le _
  · rw [turn, due]
    exact Nat.le_refl _
  · rw [turn, waiting]
    exact Nat.le_refl _
  · rw [turn, waiting]
    exact Nat.le_refl _
  · rw [turn, done]
    exact Nat.le_refl _

/-- A load that nothing comes between. -/
theorem advance_advance (library : Library) (id path : String) :
    (advance { id, path } library).1.advance (advance { id, path } library).2 =
      ({ id, path, stage := .done (library.loadFrom id path).1 },
        (library.loadFrom id path).2) := by
  rcases loadFrom_cases library id path with
    ⟨flow, found, loaded⟩ | ⟨absent, ⟨flow, read, loaded⟩ | ⟨fault, read, loaded⟩⟩
  · have first : advance { id, path } library = _ := advance_of_kept rfl found
    rw [first, loaded]
    exact advance_of_done rfl
  · have first : advance { id, path } library = _ := advance_of_absent rfl absent
    rw [first, loaded]
    exact advance_of_read rfl read
  · have first : advance { id, path } library = _ := advance_of_absent rfl absent
    rw [first, loaded]
    exact advance_of_unread rfl read

end Load

/-- A library and the loads from it that are under way. -/
structure Desk where
  library : Library
  loads : List Load := []

namespace Desk

/-- One of the loads takes a turn. -/
def turn (desk : Desk) (index : Nat) : Desk :=
  match desk.loads[index]? with
  | some load =>
    { library := (load.advance desk.library).2
      loads := desk.loads.set index (load.advance desk.library).1 }
  | none => desk

/-- The loads take turns in this order. -/
def run (desk : Desk) (turns : List Nat) : Desk := turns.foldl turn desk

variable {desk : Desk} {index : Nat} {load : Load}

theorem turn_of_some (found : desk.loads[index]? = some load) :
    desk.turn index =
      { library := (load.advance desk.library).2
        loads := desk.loads.set index (load.advance desk.library).1 } := by
  simp only [turn, found]

theorem turn_of_none (absent : desk.loads[index]? = none) : desk.turn index = desk := by
  simp only [turn, absent]

theorem turn_of_done {result : Except Fault Flow} (found : desk.loads[index]? = some load)
    (done : load.stage = .done result) : desk.turn index = desk := by
  rw [turn_of_some found, Load.advance_of_done done]
  rcases List.getElem?_eq_some_iff.1 found with ⟨bound, rfl⟩
  rw [List.set_getElem_self]

/-- What a turn of each load keeps, a turn keeps. -/
theorem keep_turn {P : Desk → Prop} (index : Nat) (holds : P desk)
    (keeps : ∀ load, desk.loads[index]? = some load → P
      { library := (load.advance desk.library).2
        loads := desk.loads.set index (load.advance desk.library).1 }) :
    P (desk.turn index) := by
  cases found : desk.loads[index]? with
  | none =>
      rw [turn_of_none found]
      exact holds
  | some load =>
      rw [turn_of_some found]
      exact keeps load found

@[simp] theorem length_run (desk : Desk) (turns : List Nat) :
    (desk.run turns).loads.length = desk.loads.length := by
  induction turns generalizing desk with
  | nil => rfl
  | cons index rest ih =>
      refine (ih _).trans ?_
      apply keep_turn (P := fun after => after.loads.length = desk.loads.length) index rfl
      intro load _
      exact List.length_set

/-- Each turn of a load counts. -/
theorem turns_run_le (turns : List Nat) (found : desk.loads[index]? = some load) :
    ∃ after, (desk.run turns).loads[index]? = some after ∧
      after.stage.turns ≤ load.stage.turns - turns.count index := by
  induction turns generalizing desk load with
  | nil => exact ⟨load, found, Nat.le_refl _⟩
  | cons next rest ih =>
      by_cases same : next = index
      · subst same
        have moved : (desk.turn next).loads[next]? = some (load.advance desk.library).1 := by
          rw [turn_of_some found]
          exact List.getElem?_set_self (List.getElem?_eq_some_iff.1 found).1
        rcases ih moved with ⟨after, reached, fewer⟩
        refine ⟨after, reached, ?_⟩
        have closer := load.turns_advance_le desk.library
        rw [List.count_cons_self]
        omega
      · have unmoved : (desk.turn next).loads[index]? = some load := by
          cases other : desk.loads[next]? with
          | none => rwa [turn_of_none other]
          | some another =>
              rw [turn_of_some other]
              exact (List.getElem?_set_ne same).trans found
        rcases ih unmoved with ⟨after, reached, fewer⟩
        refine ⟨after, reached, ?_⟩
        rwa [List.count_cons_of_ne same]

/-- Two turns for each load, in whatever order, are enough. -/
theorem done_of_turns {turns : List Nat}
    (enough : ∀ index, index < desk.loads.length → 2 ≤ turns.count index) :
    ∀ load ∈ (desk.run turns).loads, ∃ result, load.stage = .done result := by
  intro load member
  rcases List.getElem?_of_mem member with ⟨index, found⟩
  have bound : index < desk.loads.length := by
    rw [← length_run desk turns]
    exact (List.getElem?_eq_some_iff.1 found).1
  rcases turns_run_le turns (List.getElem?_eq_getElem bound) with ⟨after, reached, fewer⟩
  cases reached.symm.trans found
  have most := Stage.turns_le desk.loads[index].stage
  have given := enough index bound
  apply Stage.done_of_turns
  omega

/-- Nothing is left to do once every load came to its end. -/
theorem run_of_done (done : ∀ load ∈ desk.loads, ∃ result, load.stage = .done result)
    (turns : List Nat) : desk.run turns = desk := by
  induction turns with
  | nil => rfl
  | cons index rest ih =>
      have unchanged : desk.turn index = desk := by
        cases found : desk.loads[index]? with
        | none => exact turn_of_none found
        | some load =>
            rcases done load (List.mem_of_getElem? found) with ⟨result, ended⟩
            exact turn_of_done found ended
      rw [run, List.foldl_cons, unchanged]
      exact ih

/-- The turn of the load behind some others. -/
theorem turn_length (library : Library) (before : List Load) (load : Load) (rest : List Load) :
    turn { library, loads := before ++ load :: rest } before.length =
      { library := (load.advance library).2
        loads := before ++ (load.advance library).1 :: rest } := by
  simp [turn]

/-- Two turns of the load behind some others, with nothing between them. -/
theorem run_twice (library : Library) (before : List Load) (id path : String)
    (rest : List Load) :
    run { library, loads := before ++ { id, path } :: rest } [before.length, before.length] =
      { library := (library.loadFrom id path).2
        loads :=
          before ++ { id, path, stage := .done (library.loadFrom id path).1 } :: rest } := by
  have both := Load.advance_advance library id path
  simp only [run, List.foldl_cons, List.foldl_nil, turn_length, both]

end Desk

end Library

end Storyboard
