import Storyboard.Proofs.Library.Turns
/-!
# Loading ahead

The loads of a list of flows go on side by side, in an order that is not known. Each of them
comes to what it would come to alone, whatever the order and whichever flows are on the list:
a load may find what another has kept, but only what it would have read itself.

The invariant relates the desk to the library before the first turn: what is kept by now was kept
then or would be loaded then. One turn after another is `Library.preload`.

Main results: `preloads_preloadBy`, `preloadBy_of_enough`, `preloadBy_nil`.
-/

namespace Storyboard

namespace Library

/-- How a load of a flow that does not come to a flow is reported. -/
def failure? (id : String) : Except Fault Flow → Option (String × Fault)
  | .ok _ => none
  | .error fault => some (id, fault)

/-- What is said of loads that came to their end. -/
def reportOn (loads : List Load) : Preload where
  loaded := loads.filterMap fun load =>
    match load.stage with
    | .done (.ok _) => some load.id
    | _ => none
  failed := loads.filterMap fun load =>
    match load.stage with
    | .done result => failure? load.id result
    | _ => none

/-- A load of each flow of a list, from where it is stored. -/
def loadsOf (sources : Sources) (ids : List String) : List Load :=
  ids.map fun id => { id, path := sources.pathFor id }

/-- Two turns for each load, one load after another. -/
def inOrder (first : Nat) : Nat → List Nat
  | 0 => []
  | count + 1 => first :: first :: inOrder (first + 1) count

/-- Loads a list of flows as far as these turns go. -/
def preloadIn (turns : List Nat) (library : Library) (ids : List String) : Preload × Library :=
  let desk := Desk.run { library, loads := loadsOf library.sources ids } turns
  (reportOn desk.loads, desk.library)

/-- Loads a list of flows. The loads take these turns first; those that did not come to their
end then finish one after another. -/
def preloadBy (turns : List Nat) (library : Library) (ids : List String) : Preload × Library :=
  library.preloadIn (turns ++ inOrder 0 ids.length) ids

/-- What loading flows ahead comes to, said by what each load would come to alone. -/
structure Preloads (library : Library) (ids : List String) (report : Preload)
    (after : Library) : Prop where
  loaded : report.loaded = ids.filter fun id => (library.load id).1.isOk
  failed : report.failed = ids.filterMap fun id => failure? id (library.load id).1
  together : (report.loaded ++ report.failed.map (·.1)).Perm ids
  listed : ∀ id ∈ ids, after.kept.get? id = (library.load id).1.toOption
  others : ∀ id, id ∉ ids → after.kept.get? id = library.kept.get? id
  retained : ∀ id flow, library.kept.get? id = some flow → after.kept.get? id = some flow

variable {library : Library} {sources : Sources} {ids : List String}

/-! ### Reports -/

section Reports

variable {load : Load} {loads : List Load} {outcome : String → Except Fault Flow}

theorem reportOn_cons_of_ok {flow : Flow} (done : load.stage = .done (.ok flow))
    (rest : List Load) :
    reportOn (load :: rest) =
      { reportOn rest with loaded := load.id :: (reportOn rest).loaded } := by
  simp [reportOn, done, failure?]

theorem reportOn_cons_of_error {fault : Fault} (done : load.stage = .done (.error fault))
    (rest : List Load) :
    reportOn (load :: rest) =
      { reportOn rest with failed := (load.id, fault) :: (reportOn rest).failed } := by
  simp [reportOn, done, failure?]

/-- The report on loads whose outcome depends only on the flow. -/
theorem reportOn_of_done (done : ∀ load ∈ loads, load.stage = .done (outcome load.id)) :
    (reportOn loads).loaded = (loads.map (·.id)).filter (fun id => (outcome id).isOk) ∧
      (reportOn loads).failed =
        (loads.map (·.id)).filterMap fun id => failure? id (outcome id) := by
  induction loads with
  | nil => exact ⟨rfl, rfl⟩
  | cons load rest ih =>
      have head := done load List.mem_cons_self
      rcases ih fun other among => done other (List.mem_cons_of_mem load among) with
        ⟨loaded, failed⟩
      cases result : outcome load.id with
      | ok flow =>
          rw [result] at head
          rw [reportOn_cons_of_ok head]
          simp [loaded, failed, result, failure?, Except.isOk, Except.toBool]
      | error fault =>
          rw [result] at head
          rw [reportOn_cons_of_error head]
          simp [loaded, failed, result, failure?, Except.isOk, Except.toBool]

theorem map_fst_failures (outcome : String → Except Fault Flow) (ids : List String) :
    (ids.filterMap fun id => failure? id (outcome id)).map (·.1) =
      ids.filter fun id => !(outcome id).isOk := by
  induction ids with
  | nil => rfl
  | cons id rest ih =>
      cases result : outcome id with
      | ok flow => simpa [result, failure?, Except.isOk, Except.toBool] using ih
      | error fault => simpa [result, failure?, Except.isOk, Except.toBool] using ih

end Reports

/-! ### Any order -/

/-- A load of a flow as it stands, seen from the library before the first turn. -/
structure Fits (library : Library) (kept : Table Flow) (load : Load) : Prop where
  path : load.path = library.sources.pathFor load.id
  waiting : load.stage = .waiting → library.kept.get? load.id = none
  result : ∀ result, load.stage = .done result → result = (library.load load.id).1
  stored : ∀ flow, load.stage = .done (.ok flow) → kept.get? load.id = some flow

/-- The loads of a list of flows and what is kept by now, seen from the library before the first
turn. -/
structure Underway (library : Library) (ids : List String) (desk : Desk) : Prop where
  sources : desk.library.sources = library.sources
  loader : desk.library.loader = library.loader
  listed : desk.loads.map (·.id) = ids
  fits : ∀ load ∈ desk.loads, Fits library desk.library.kept load
  retained : ∀ id flow, library.kept.get? id = some flow →
    desk.library.kept.get? id = some flow
  kept : ∀ id flow, desk.library.kept.get? id = some flow →
    library.kept.get? id = some flow ∨ id ∈ ids ∧ (library.load id).1 = .ok flow

namespace Underway

variable {desk : Desk} {load : Load}

theorem first (library : Library) (ids : List String) :
    Underway library ids { library, loads := loadsOf library.sources ids } := by
  refine ⟨rfl, rfl, ?_, ?_, fun _ _ found => found, fun _ _ found => Or.inl found⟩
  · simp [loadsOf, Function.comp_def]
  · intro load member
    rcases List.mem_map.1 member with ⟨id, -, rfl⟩
    exact ⟨rfl, nofun, nofun, nofun⟩

theorem id_mem (underway : Underway library ids desk) (member : load ∈ desk.loads) :
    load.id ∈ ids := by
  rw [← underway.listed]
  exact List.mem_map.2 ⟨load, member, rfl⟩

/-- A flow that is kept by now is the one that its load would come to. -/
theorem load_of_kept (underway : Underway library ids desk) {id : String} {flow : Flow}
    (found : desk.library.kept.get? id = some flow) : (library.load id).1 = .ok flow := by
  rcases underway.kept id flow found with before | ⟨-, loaded⟩
  · rw [load_fst, before]
  · exact loaded

/-- What arrives is what the load would come to. -/
theorem load_of_waiting (underway : Underway library ids desk) (member : load ∈ desk.loads)
    (waiting : load.stage = .waiting) :
    (library.load load.id).1 = readFlow desk.library.loader load.id load.path := by
  have fits := underway.fits load member
  rw [load_fst, fits.waiting waiting, underway.loader, fits.path]

/-- A turn keeps nothing more, or the flow that the load would come to. -/
theorem kept_advance (underway : Underway library ids desk) (member : load ∈ desk.loads) :
    (load.advance desk.library).2.kept = desk.library.kept ∨
      ∃ flow, (library.load load.id).1 = .ok flow ∧
        (load.advance desk.library).2.kept = desk.library.kept.put load.id flow := by
  rcases load.advance_cases desk.library with
    ⟨-, _, -, turn⟩ | ⟨-, -, turn⟩ | ⟨waiting, flow, read, turn⟩ | ⟨-, _, -, turn⟩ |
      ⟨_, -, turn⟩
  · exact Or.inl (by rw [turn])
  · exact Or.inl (by rw [turn])
  -- Only the arrival of a text changes what is kept.
  · refine Or.inr ⟨flow, ?_, by rw [turn]⟩
    rw [underway.load_of_waiting member waiting, read]
  · exact Or.inl (by rw [turn])
  · exact Or.inl (by rw [turn])

theorem grows (underway : Underway library ids desk) (member : load ∈ desk.loads) {id : String}
    {flow : Flow} (found : desk.library.kept.get? id = some flow) :
    (load.advance desk.library).2.kept.get? id = some flow := by
  rcases underway.kept_advance member with same | ⟨added, loaded, put⟩
  · rwa [same]
  · rw [put]
    by_cases own : id = load.id
    · subst own
      cases (underway.load_of_kept found).symm.trans loaded
      exact Table.get?_put_self _ _ _
    · rwa [Table.get?_put_of_ne own]

theorem kept_of_advance (underway : Underway library ids desk) (member : load ∈ desk.loads)
    {id : String} {flow : Flow}
    (found : (load.advance desk.library).2.kept.get? id = some flow) :
    library.kept.get? id = some flow ∨ id ∈ ids ∧ (library.load id).1 = .ok flow := by
  rcases underway.kept_advance member with same | ⟨added, loaded, put⟩
  · rw [same] at found
    exact underway.kept id flow found
  · rw [put] at found
    by_cases own : id = load.id
    · subst own
      cases (Table.get?_put_self _ _ _).symm.trans found
      exact Or.inr ⟨underway.id_mem member, loaded⟩
    · rw [Table.get?_put_of_ne own] at found
      exact underway.kept id flow found

theorem fits_advance (underway : Underway library ids desk) (member : load ∈ desk.loads) :
    Fits library (load.advance desk.library).2.kept (load.advance desk.library).1 := by
  have fits := underway.fits load member
  rcases load.advance_cases desk.library with
    ⟨-, flow, found, turn⟩ | ⟨-, absent, turn⟩ | ⟨waiting, flow, read, turn⟩ |
      ⟨waiting, fault, read, turn⟩ | ⟨result, done, turn⟩
  · rw [turn]
    refine ⟨fits.path, nofun, ?_, ?_⟩
    · rintro _ ⟨⟩
      exact (underway.load_of_kept found).symm
    · rintro _ ⟨⟩
      exact found
  · rw [turn]
    refine ⟨fits.path, fun _ => ?_, nofun, nofun⟩
    cases before : library.kept.get? load.id with
    | none => rfl
    | some flow => cases absent.symm.trans (underway.retained _ _ before)
  · rw [turn]
    refine ⟨fits.path, nofun, ?_, ?_⟩
    · rintro _ ⟨⟩
      rw [← read]
      exact (underway.load_of_waiting member waiting).symm
    · rintro _ ⟨⟩
      exact Table.get?_put_self _ _ _
  · rw [turn]
    refine ⟨fits.path, nofun, ?_, nofun⟩
    rintro _ ⟨⟩
    rw [← read]
    exact (underway.load_of_waiting member waiting).symm
  · rw [turn]
    exact fits

/-- A turn leaves the desk under way. -/
theorem turn (underway : Underway library ids desk) (index : Nat) :
    Underway library ids (desk.turn index) := by
  refine Desk.keep_turn index underway ?_
  intro load found
  have member := List.mem_of_getElem? found
  refine ⟨?_, ?_, ?_, ?_, ?_, ?_⟩
  · exact (load.advance_sources _).trans underway.sources
  · exact (load.advance_loader _).trans underway.loader
  · rcases List.getElem?_eq_some_iff.1 found with ⟨bound, rfl⟩
    have kept : (desk.loads.map (·.id)).set index desk.loads[index].id = desk.loads.map (·.id) := by
      rw [← List.map_set, List.set_getElem_self]
    simp only [List.map_set, Load.advance_id]
    exact kept.trans underway.listed
  -- A load that ended before finds its flow still kept, since a turn only adds to what is kept.
  · intro other among
    rcases List.mem_or_eq_of_mem_set among with old | rfl
    · have fits := underway.fits other old
      exact ⟨fits.path, fits.waiting, fits.result,
        fun flow done => underway.grows member (fits.stored flow done)⟩
    · exact underway.fits_advance member
  · intro id flow before
    exact underway.grows member (underway.retained id flow before)
  · intro id flow after
    exact underway.kept_of_advance member after

theorem run (underway : Underway library ids desk) (turns : List Nat) :
    Underway library ids (desk.run turns) := by
  induction turns generalizing desk with
  | nil => exact underway
  | cons index rest ih => exact ih (underway.turn index)

/-- Loads that all came to their end came to what each would come to alone. -/
theorem preloads (underway : Underway library ids desk)
    (done : ∀ load ∈ desk.loads, ∃ result, load.stage = .done result) :
    Preloads library ids (reportOn desk.loads) desk.library := by
  have outcomes : ∀ load ∈ desk.loads, load.stage = .done (library.load load.id).1 := by
    intro load member
    rcases done load member with ⟨result, ended⟩
    rw [ended, (underway.fits load member).result result ended]
  rcases @reportOn_of_done _ (fun id => (library.load id).1) outcomes with
    ⟨loaded, failed⟩
  rw [underway.listed] at loaded failed
  refine ⟨loaded, failed, ?_, ?_, ?_, underway.retained⟩
  · rw [loaded, failed, map_fst_failures]
    exact List.filter_append_perm _ _
  · intro id among
    rw [← underway.listed] at among
    rcases List.mem_map.1 among with ⟨load, member, rfl⟩
    cases alone : (library.load load.id).1 with
    | ok flow =>
        refine (underway.fits load member).stored flow ?_
        rw [outcomes load member, alone]
    | error fault =>
        cases found : desk.library.kept.get? load.id with
        | none => rfl
        | some flow => cases alone.symm.trans (underway.load_of_kept found)
  · intro id apart
    cases before : library.kept.get? id with
    | some flow => exact underway.retained id flow before
    | none =>
        cases found : desk.library.kept.get? id with
        | none => rfl
        | some flow =>
            rcases underway.kept id flow found with old | ⟨among, -⟩
            · cases before.symm.trans old
            · exact (apart among).elim

end Underway

theorem two_le_count_inOrder {first count index : Nat} (above : first ≤ index)
    (below : index < first + count) : 2 ≤ (inOrder first count).count index := by
  induction count generalizing first with
  | zero => omega
  | succ count ih =>
      by_cases same : index = first
      · subst same
        simp [inOrder]
      · have later := @ih (first + 1) (by omega) (by omega)
        simp only [inOrder, List.count_cons]
        omega

/-- Whatever turns the loads take, each comes to what it would come to alone. -/
theorem preloads_preloadBy (turns : List Nat) (library : Library) (ids : List String) :
    Preloads library ids (preloadBy turns library ids).1 (preloadBy turns library ids).2 := by
  refine ((Underway.first library ids).run _).preloads (Desk.done_of_turns ?_)
  intro index bound
  have few : index < 0 + ids.length := by simpa [loadsOf] using bound
  have enough := two_le_count_inOrder (Nat.zero_le index) few
  rw [List.count_append]
  omega

/-- Turns that are enough for every load are all that is taken. -/
theorem preloadBy_of_enough {turns : List Nat}
    (enough : ∀ index, index < ids.length → 2 ≤ turns.count index) :
    preloadBy turns library ids = preloadIn turns library ids := by
  have done : ∀ load ∈ (Desk.run { library, loads := loadsOf library.sources ids } turns).loads,
      ∃ result, load.stage = .done result := by
    apply Desk.done_of_turns
    intro index bound
    exact enough index (by simpa [loadsOf] using bound)
  have finished := Desk.run_of_done done (inOrder 0 ids.length)
  simp only [preloadBy, preloadIn, Desk.run, List.foldl_append] at finished ⊢
  rw [finished]

/-- The report does not depend on the turns. -/
theorem Preloads.report_eq {report other : Preload} {after next : Library}
    (preloads : Preloads library ids report after) (others : Preloads library ids other next) :
    report = other := by
  rcases report with ⟨loaded, failed⟩
  rcases other with ⟨otherLoaded, otherFailed⟩
  have sameLoaded : loaded = otherLoaded := preloads.loaded.trans others.loaded.symm
  have sameFailed : failed = otherFailed := preloads.failed.trans others.failed.symm
  rw [sameLoaded, sameFailed]

/-! ### One after another -/

/-- Loads that take their turns one after another, behind others that came to their end. -/
theorem run_inOrder (before : List Load) (ids : List String) (same : library.sources = sources) :
    ∃ ended,
      ({ library, loads := before ++ loadsOf sources ids } : Desk).run
          (inOrder before.length ids.length) =
        { library := (library.preload ids).2, loads := before ++ ended } ∧
      reportOn ended = (library.preload ids).1 := by
  -- The loads that ended stand before the rest, so the turns of the rest begin behind them.
  induction ids generalizing before library with
  | nil => exact ⟨[], rfl, rfl⟩
  | cons id rest ih =>
      let finished : Load :=
        { id, path := sources.pathFor id, stage := .done (library.load id).1 }
      rcases ih (before ++ [finished]) ((load_sources library id).trans same) with
        ⟨ended, rested, report⟩
      have firstTwo := Desk.run_twice library before id (sources.pathFor id) (loadsOf sources rest)
      have loaded : library.loadFrom id (sources.pathFor id) = library.load id := by
        rw [load, same]
      rw [loaded] at firstTwo
      simp only [List.append_assoc, List.singleton_append, List.length_append,
        List.length_singleton] at rested
      refine ⟨finished :: ended, ?_, ?_⟩
      · calc
          Desk.run { library, loads := before ++ loadsOf sources (id :: rest) }
              (inOrder before.length (id :: rest).length)
            = (Desk.run { library, loads := before ++ loadsOf sources (id :: rest) }
                [before.length, before.length]).run (inOrder (before.length + 1) rest.length) := rfl
          _ = Desk.run
                { library := (library.load id).2
                  loads := before ++ finished :: loadsOf sources rest }
                (inOrder (before.length + 1) rest.length) := congrArg (Desk.run · _) firstTwo
          _ = _ := by rw [rested, preload_cons_snd]
      · cases result : (library.load id).1 with
        | ok flow =>
            have done : finished.stage = .done (.ok flow) := congrArg Stage.done result
            rw [reportOn_cons_of_ok done, preload_cons_of_ok result, report]
        | error fault =>
            have done : finished.stage = .done (.error fault) := congrArg Stage.done result
            rw [reportOn_cons_of_error done, preload_cons_of_error result, report]

/-- Loads that take their turns one after another are loaded one after another. -/
theorem preloadBy_nil (library : Library) (ids : List String) :
    preloadBy [] library ids = library.preload ids := by
  rcases run_inOrder [] ids (rfl : library.sources = library.sources) with ⟨ended, ran, report⟩
  simp only [List.nil_append, List.length_nil] at ran
  simp only [preloadBy, preloadIn, List.nil_append, ran, report]

theorem preloads_preload (library : Library) (ids : List String) :
    Preloads library ids (library.preload ids).1 (library.preload ids).2 := by
  rw [← preloadBy_nil]
  exact preloads_preloadBy [] library ids

end Library

end Storyboard
