import Storyboard.Flow.Library
import Storyboard.Proofs.Flow.Document
/-!
# Loading flows

What a load gives and what it leaves behind. A library is faithful if each flow that it
keeps is what its text says. Requests that leave the texts alone and read flows only from
where they are stored keep a library faithful, so a load from it is as good as a fresh one.
-/

namespace Storyboard

namespace Library

variable {library : Library} {sources : Sources} {loader : Loader}

theorem loadFrom_of_kept {id : String} {flow : Flow} (path : String)
    (found : library.kept.get? id = some flow) :
    library.loadFrom id path = (.ok flow, library) := by
  simp [loadFrom, found]

theorem loadFrom_of_read {id path : String} {flow : Flow}
    (absent : library.kept.get? id = none)
    (read : readFlow library.loader id path = .ok flow) :
    library.loadFrom id path =
      (.ok flow,
        { library with
          reads := library.reads ++ [path], kept := library.kept.put id flow }) := by
  simp [loadFrom, absent, read]

theorem loadFrom_of_unread {id path : String} {fault : Fault}
    (absent : library.kept.get? id = none)
    (read : readFlow library.loader id path = .error fault) :
    library.loadFrom id path =
      (.error fault, { library with reads := library.reads ++ [path] }) := by
  simp [loadFrom, absent, read]

/-- What a load comes to: the flow is kept, or it is read and kept from then on, or it cannot
be read. -/
theorem loadFrom_cases (library : Library) (id path : String) :
    (∃ flow, library.kept.get? id = some flow ∧
        library.loadFrom id path = (.ok flow, library)) ∨
      (library.kept.get? id = none ∧
        ((∃ flow, readFlow library.loader id path = .ok flow ∧
            library.loadFrom id path =
              (.ok flow,
                { library with
                  reads := library.reads ++ [path], kept := library.kept.put id flow })) ∨
          ∃ fault, readFlow library.loader id path = .error fault ∧
            library.loadFrom id path =
              (.error fault, { library with reads := library.reads ++ [path] }))) := by
  cases found : library.kept.get? id with
  | some flow => exact Or.inl ⟨flow, rfl, loadFrom_of_kept path found⟩
  | none =>
      right
      refine ⟨rfl, ?_⟩
      cases read : readFlow library.loader id path with
      | ok flow => exact Or.inl ⟨flow, rfl, loadFrom_of_read found read⟩
      | error fault => exact Or.inr ⟨fault, rfl, loadFrom_of_unread found read⟩

/-- The result of a load: the flow that is kept, else what the text says. -/
theorem load_fst (library : Library) (id : String) :
    (library.load id).1 =
      match library.kept.get? id with
      | some flow => .ok flow
      | none => readFlow library.loader id (library.sources.pathFor id) := by
  rcases loadFrom_cases library id (library.sources.pathFor id) with
    ⟨flow, found, loaded⟩ | ⟨absent, ⟨flow, read, loaded⟩ | ⟨fault, read, loaded⟩⟩
  · simp only [load, loaded, found]
  · simp only [load, loaded, absent, read]
  · simp only [load, loaded, absent, read]

theorem kept_of_load {id : String} {flow : Flow} (succeeded : (library.load id).1 = .ok flow) :
    (library.load id).2.kept.get? id = some flow := by
  rcases loadFrom_cases library id (library.sources.pathFor id) with
    ⟨found, kept, loaded⟩ | ⟨-, ⟨found, -, loaded⟩ | ⟨fault, -, loaded⟩⟩
  · rw [load, loaded] at succeeded ⊢
    cases succeeded
    exact kept
  · rw [load, loaded] at succeeded ⊢
    cases succeeded
    exact Table.get?_put_self _ _ _
  · rw [load, loaded] at succeeded
    cases succeeded

theorem load_load (library : Library) (id : String) :
    ((library.load id).2.load id).1 = (library.load id).1 := by
  cases result : (library.load id).1 with
  | ok flow => rw [load_fst, kept_of_load result]
  | error fault =>
      rcases loadFrom_cases library id (library.sources.pathFor id) with
        ⟨flow, -, loaded⟩ | ⟨absent, ⟨flow, -, loaded⟩ | ⟨found, read, loaded⟩⟩
      · rw [load, loaded] at result
        cases result
      · rw [load, loaded] at result
        cases result
      · have after : library.load id = _ := loaded
        rw [after] at result ⊢
        rw [load_fst]
        simp only [absent, read]
        exact result

theorem load_sources (library : Library) (id : String) :
    (library.load id).2.sources = library.sources := by
  rcases loadFrom_cases library id (library.sources.pathFor id) with
    ⟨_, -, loaded⟩ | ⟨-, ⟨_, -, loaded⟩ | ⟨_, -, loaded⟩⟩
  all_goals rw [load, loaded]

theorem preload_cons_snd (library : Library) (id : String) (rest : List String) :
    (library.preload (id :: rest)).2 = ((library.load id).2.preload rest).2 := by
  rw [preload]
  rcases library.load id with ⟨result, next⟩
  cases result <;> rfl

theorem preload_cons_of_ok {id : String} {flow : Flow} (loaded : (library.load id).1 = .ok flow)
    (rest : List String) :
    (library.preload (id :: rest)).1 =
      { ((library.load id).2.preload rest).1 with
        loaded := id :: ((library.load id).2.preload rest).1.loaded } := by
  rw [preload]
  rcases whole : library.load id with ⟨result, next⟩
  rw [whole] at loaded
  cases loaded
  rfl

theorem preload_cons_of_error {id : String} {fault : Fault}
    (loaded : (library.load id).1 = .error fault) (rest : List String) :
    (library.preload (id :: rest)).1 =
      { ((library.load id).2.preload rest).1 with
        failed := (id, fault) :: ((library.load id).2.preload rest).1.failed } := by
  rw [preload]
  rcases whole : library.load id with ⟨result, next⟩
  rw [whole] at loaded
  cases loaded
  rfl

/-- The library reads from these sources through this loader, and each flow that it keeps is
what its text says. -/
structure Faithful (sources : Sources) (loader : Loader) (library : Library) : Prop where
  reads_sources : library.sources = sources
  reads_loader : library.loader = loader
  kept : ∀ id flow, library.kept.get? id = some flow →
    readFlow loader id (sources.pathFor id) = .ok flow

/-- A request that leaves the texts alone and reads flows only from where they are stored. -/
def Step.Steady (sources : Sources) : Step → Prop
  | .putText _ _ => False
  | .loadFrom id path => path = sources.pathFor id
  | _ => True

namespace Faithful

theorem empty (sources : Sources) (loader : Loader) : Faithful sources loader { sources, loader } :=
  ⟨rfl, rfl, fun id flow found => by simp at found⟩

/-- A load from a faithful library gives what a fresh one gives. -/
theorem load_fst (faithful : Faithful sources loader library) (id : String) :
    (library.load id).1 = readFlow loader id (sources.pathFor id) := by
  rw [Library.load_fst, faithful.reads_sources, faithful.reads_loader]
  cases kept : library.kept.get? id with
  | some flow => exact (faithful.kept id flow kept).symm
  | none => rfl

theorem of_kept {next : Library} (faithful : Faithful sources loader library)
    (sameSources : next.sources = library.sources) (sameLoader : next.loader = library.loader)
    (kept : ∀ id flow, next.kept.get? id = some flow →
      library.kept.get? id = some flow ∨ readFlow loader id (sources.pathFor id) = .ok flow) :
    Faithful sources loader next := by
  refine ⟨sameSources.trans faithful.reads_sources, sameLoader.trans faithful.reads_loader, ?_⟩
  intro id flow found
  rcases kept id flow found with old | read
  · exact faithful.kept id flow old
  · exact read

theorem load_snd (faithful : Faithful sources loader library) (id : String) :
    Faithful sources loader (library.load id).2 := by
  rcases loadFrom_cases library id (library.sources.pathFor id) with
    ⟨flow, -, loaded⟩ | ⟨-, ⟨flow, read, loaded⟩ | ⟨fault, -, loaded⟩⟩
  · rw [load, loaded]
    exact faithful
  · rw [load, loaded]
    refine faithful.of_kept rfl rfl fun other found stored => ?_
    by_cases asked : other = id
    · subst asked
      simp only [Table.get?_put_self, Option.some.injEq] at stored
      subst stored
      right
      rw [← faithful.reads_loader, ← faithful.reads_sources]
      exact read
    · left
      rwa [Table.get?_put_of_ne asked] at stored
  · rw [load, loaded]
    exact faithful.of_kept rfl rfl fun _ _ found => Or.inl found

theorem preload_snd (faithful : Faithful sources loader library) (ids : List String) :
    Faithful sources loader (library.preload ids).2 := by
  induction ids generalizing library with
  | nil => exact faithful
  | cons id rest ih =>
      rw [preload_cons_snd]
      exact ih (faithful.load_snd id)

theorem evict (faithful : Faithful sources loader library) (id : Option String) :
    Faithful sources loader (library.evict id) := by
  cases id with
  | none => exact faithful.of_kept rfl rfl fun _ _ found => by simp [Library.evict] at found
  | some id =>
      refine faithful.of_kept rfl rfl fun other flow found => Or.inl ?_
      by_cases asked : other = id
      · subst asked
        simp [Library.evict] at found
      · rwa [Library.evict, Table.get?_erase_of_ne asked] at found

/-- A steady request keeps a library faithful. -/
theorem run (faithful : Faithful sources loader library) {request : Step}
    (steady : request.Steady sources) : Faithful sources loader (request.run library).2 := by
  cases request with
  | load id => exact faithful.load_snd id
  | loadFrom id path =>
      have stored : path = library.sources.pathFor id := by
        rw [faithful.reads_sources]
        exact steady
      subst stored
      exact faithful.load_snd id
  | preload ids => exact faithful.preload_snd ids
  | evict id => exact faithful.evict id
  | putText path text => exact steady.elim
  | _ => exact faithful

end Faithful

end Library

end Storyboard
