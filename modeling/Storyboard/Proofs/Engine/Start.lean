import Storyboard.Headless
import Storyboard.Proofs.Engine.Always
import Storyboard.Proofs.Library.Ahead
import Storyboard.Proofs.Library.History
/-!
# The start of an engine

A start fails if and only if the entry flow cannot be loaded. It has read one text by then, and
the messages are those that were sent before it. Otherwise the user is at the first screen of the
flow, with nothing else to go back to, and was told of each flow that could not be loaded ahead,
in the order of the list and however the loads took their turns, and then of the screen.

Main result: `start_settles`.
-/

namespace Storyboard

namespace Engine

variable {library : Library} {sources : Sources} {loader : Loader} {entry : String}
  {sent : List Message}

/-- Starts an engine. The loads ahead take these turns first. -/
def startBy (turns : List Nat) (sent : List Message) (library : Library) (ahead : List String)
    (entry : String) : Start :=
  startWith (·.preloadBy turns ahead) sent library entry

/-- The warning on a flow that cannot be loaded ahead. -/
def warning? (id : String) : Except Fault Flow → Option Message
  | .ok _ => none
  | .error fault =>
    some (.diagnostic .warning ("preload of \"" ++ id ++ "\" failed: " ++ fault.message))

/-- An engine as a start leaves it. -/
structure Opened (entry screen : String) (engine : Engine) : Prop where
  root : engine.root = ⟨entry, screen⟩
  frames : engine.context.navigation.frames = [⟨entry, screen⟩]
  session : engine.context.session = {}
  flowStates : engine.context.flowStates = []

/-- What the text of a flow comes to. -/
def outcomeOf (sources : Sources) (loader : Loader) (id : String) : Except Fault Flow :=
  Library.readFlow loader id (sources.pathFor id)

/-- What is promised of a start: all of it, or nothing. -/
structure Starts (sources : Sources) (loader : Loader) (ahead : List String) (entry : String)
    (sent : List Message) (start : Start) : Prop where
  fails_iff : ∀ fault, start.result = .error fault ↔
    outcomeOf sources loader entry = .error fault
  /-- Nothing was sent, and only the text of the entry flow was read. -/
  silent : ∀ fault, start.result = .error fault →
    start.sent = sent ∧ start.library.reads = [sources.pathFor entry] ∧ start.library.kept = []
  opens : ∀ engine, start.result = .ok engine →
    ∃ flow screen, outcomeOf sources loader entry = .ok flow ∧
      flow.initialScreen? = some screen ∧ engine.Opened entry screen ∧
      engine.sent = start.sent ∧
      start.sent.reverse = sent.reverse ++
        (ahead.filterMap fun id => warning? id (outcomeOf sources loader id)) ++
          [.screenChanged entry screen]
  keeps : ∀ engine, start.result = .ok engine → engine.library = start.library ∧
    ∀ id, engine.library.kept.get? id =
      if id = entry ∨ id ∈ ahead then (outcomeOf sources loader id).toOption else none

theorem map_preloadDiagnostic (outcome : String → Except Fault Flow) (ids : List String) :
    (ids.filterMap fun id => Library.failure? id (outcome id)).map preloadDiagnostic =
      ids.filterMap fun id => warning? id (outcome id) := by
  rw [List.map_filterMap]
  congr 1
  funext id
  cases outcome id <;> rfl

/-- What a library keeps that has loaded one flow. -/
theorem get?_load_fresh {flow : Flow}
    (read : outcomeOf sources loader entry = .ok flow) (id : String) :
    (Library.load { sources, loader } entry).2.kept.get? id =
      if id = entry then some flow else none := by
  unfold outcomeOf at read
  rw [Library.load, Library.loadFrom_of_read rfl read]
  split
  · rename_i same
    rw [same]
    exact Table.get?_put_self _ _ _
  · rename_i distinct
    exact Table.get?_put_of_ne distinct _ _

/-- A start at a flow that cannot be loaded. -/
theorem starts_of_unread (loadAhead : Library → Library.Preload × Library) (ahead : List String)
    {fault : Fault} (unread : outcomeOf sources loader entry = .error fault) :
    Starts sources loader ahead entry sent
      (startWith loadAhead sent { sources, loader } entry) := by
  have failed := ((Library.Faithful.empty sources loader).load_fst entry).trans unread
  have after : (Library.load { sources, loader } entry).2 =
      { sources, loader, reads := [sources.pathFor entry] } := by
    unfold outcomeOf at unread
    rw [Library.load, Library.loadFrom_of_unread rfl unread]
    rfl
  rcases startWith_cases loadAhead sent { sources, loader } entry with
    ⟨other, same, whole⟩ | ⟨flow, loaded, -⟩
  · cases failed.symm.trans same
    rw [whole, after]
    refine ⟨fun other => ?_, fun _ _ => ⟨rfl, rfl, rfl⟩, ?_, ?_⟩
    · simp only [unread, Except.error.injEq]
    all_goals
      intro engine started
      cases started
  · cases failed.symm.trans loaded

/-- A start at a flow that can be loaded. -/
theorem starts_of_read (turns : List Nat) (ahead : List String) {flow : Flow}
    (read : outcomeOf sources loader entry = .ok flow) :
    Starts sources loader ahead entry sent
      (startBy turns sent { sources, loader } ahead entry) := by
  have loaded := ((Library.Faithful.empty sources loader).load_fst entry).trans read
  rcases (Library.Owned.of_text (Library.readFlow_eq_ok_iff.1 read)).opens with
    ⟨screen, first, -⟩
  -- What the library keeps by now is what its texts say, so no load ahead can find anything else.
  have faithful := (Library.Faithful.empty sources loader).load_snd entry
  have preloads := Library.preloads_preloadBy turns (Library.load { sources, loader } entry).2 ahead
  rcases startWith_cases (·.preloadBy turns ahead) sent { sources, loader } entry with
    ⟨fault, failed, -⟩ | ⟨other, same, ⟨none, -⟩ | ⟨shown, opens, whole⟩⟩
  · cases loaded.symm.trans failed
  · cases loaded.symm.trans same
    cases first.symm.trans none
  cases loaded.symm.trans same
  cases first.symm.trans opens
  rw [startBy, whole]
  refine ⟨fun fault => ?_, nofun, ?_, ?_⟩
  · simp only [read, reduceCtorEq]
  · rintro _ ⟨⟩
    refine ⟨flow, screen, read, first, ⟨rfl, rfl, rfl, rfl⟩, rfl, ?_⟩
    simp only [opened, mark, List.reverse_cons, List.reverse_append, List.reverse_reverse,
      preloads.failed, faithful.load_fst, map_preloadDiagnostic, outcomeOf, List.append_assoc]
  · rintro _ ⟨⟩
    refine ⟨rfl, fun id => ?_⟩
    change ((Library.load { sources, loader } entry).2.preloadBy turns ahead).2.kept.get? id = _
    by_cases listed : id ∈ ahead
    · rw [preloads.listed id listed, faithful.load_fst, if_pos (Or.inr listed), outcomeOf]
    · rw [preloads.others id listed, get?_load_fresh read]
      by_cases same : id = entry
      · rw [if_pos same, if_pos (Or.inl same), same, read]
        rfl
      · rw [if_neg same, if_neg (not_or.2 ⟨same, listed⟩)]

theorem starts_startBy (sources : Sources) (loader : Loader) (ahead : List String)
    (entry : String) (sent : List Message) (turns : List Nat) :
    Starts sources loader ahead entry sent
      (startBy turns sent { sources, loader } ahead entry) := by
  cases outcome : outcomeOf sources loader entry with
  | error fault => exact starts_of_unread (·.preloadBy turns ahead) ahead outcome
  | ok flow => exact starts_of_read turns ahead outcome

/-- A start with any settings and any texts keeps what is promised of it, and loading flows ahead
comes to the same in whatever order the loads take their turns. -/
theorem start_settles (settings : Settings) (loader : Loader) (entry : String) :
    let sources := settings.flows.sources
    let ahead := settings.flows.preload
    Starts sources loader ahead entry [] (Headless.startAt settings loader entry) ∧
      (∀ turns sent, Starts sources loader ahead entry sent
        (startBy turns sent (Headless.libraryOf settings loader) ahead entry)) ∧
      ∀ (library : Library) (ids : List String),
        Library.Preloads library ids (library.preload ids).1 (library.preload ids).2 ∧
          ∀ turns,
            (library.preloadBy turns ids).1 = (library.preload ids).1 ∧
              Library.Preloads library ids (library.preload ids).1
                (library.preloadBy turns ids).2 ∧
              ((∀ index, index < ids.length → 2 ≤ turns.count index) →
                library.preloadBy turns ids = library.preloadIn turns ids) := by
  intro sources ahead
  have starts : ∀ turns sent, Starts sources loader ahead entry sent
      (startBy turns sent (Headless.libraryOf settings loader) ahead entry) :=
    fun turns sent => starts_startBy sources loader ahead entry sent turns
  refine ⟨?_, starts, fun library ids => ⟨Library.preloads_preload library ids, ?_⟩⟩
  · have inOrder := starts [] []
    simp only [startBy, Library.preloadBy_nil] at inOrder
    exact inOrder
  · intro turns
    have preloads := Library.preloads_preloadBy turns library ids
    have same := preloads.report_eq (Library.preloads_preload library ids)
    rw [same] at preloads
    exact ⟨same, preloads, Library.preloadBy_of_enough⟩

end Engine

end Storyboard
