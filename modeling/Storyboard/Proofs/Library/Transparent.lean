import Mathlib.Data.List.Forall2
import Storyboard.Json.Printer
import Storyboard.Proofs.Library
/-!
# Transparency of the library

A request that finds its flow kept reads nothing and checks nothing, and still nobody can tell.
Whatever was loaded, evicted or failed before, each load gives what it gives in a library that
keeps nothing yet, and a flow that is kept is one that such a library loads.

The induction is over the history of requests, and a library that is faithful to its texts is
what one request hands to the next.

Main result: `transparent_of_steady`.
-/

namespace Storyboard

namespace Library

/-- Answers requests one after another. -/
def runAll : List Step → Library → List Answer × Library
  | [], library => ([], library)
  | request :: rest, library =>
    let (answer, library) := request.run library
    let (answers, library) := runAll rest library
    (answer :: answers, library)

/-- What a load gives in a library that keeps nothing yet. -/
def freshLoad (sources : Sources) (loader : Loader) (id : String) : Except Fault Flow :=
  (load { sources, loader } id).1

/-- An answer fits what fresh loads give. -/
def Step.Transparent (fresh : String → Except Fault Flow) : Step → Answer → Prop
  | .load id, answer | .loadFrom id _, answer => answer = .loaded (fresh id)
  | .preload ids, answer =>
    answer = .preloaded
      { loaded := ids.filter fun id => (fresh id).isOk
        failed := ids.filterMap fun id =>
          match fresh id with
          | .ok _ => none
          | .error fault => some (id, fault) }
  | .get id, answer =>
    ∃ found, answer = .found found ∧ ∀ flow, found = some flow → fresh id = .ok flow
  | .isKept id, answer =>
    ∃ kept, answer = .flag kept ∧ (kept = true → ∃ flow, fresh id = .ok flow)
  | _, _ => True

variable {sources : Sources} {loader : Loader} {library : Library}

theorem Faithful.load_fst_eq_freshLoad (faithful : Faithful sources loader library)
    (id : String) : (library.load id).1 = freshLoad sources loader id := by
  rw [freshLoad, faithful.load_fst, (Faithful.empty sources loader).load_fst]

theorem Faithful.freshLoad_of_kept (faithful : Faithful sources loader library) {id : String}
    {flow : Flow} (kept : library.kept.get? id = some flow) :
    freshLoad sources loader id = .ok flow := by
  have loaded : (library.load id).1 = .ok flow := by
    simp [load, loadFrom_of_kept _ kept]
  rw [← loaded, faithful.load_fst_eq_freshLoad]

/-- The flows of a list are loaded, or fail, as if each were loaded alone. -/
theorem Faithful.preload_fst (faithful : Faithful sources loader library) (ids : List String) :
    Step.Transparent (freshLoad sources loader) (.preload ids)
      (.preloaded (library.preload ids).1) := by
  induction ids generalizing library with
  | nil => rfl
  | cons id rest ih =>
      have following := Answer.preloaded.inj (ih (faithful.load_snd id))
      have fresh := faithful.load_fst_eq_freshLoad id
      apply congrArg Answer.preloaded
      cases result : (library.load id).1 with
      | ok flow =>
          rw [result] at fresh
          rw [preload_cons_of_ok result, following]
          simp [← fresh, Except.isOk, Except.toBool]
      | error fault =>
          rw [result] at fresh
          rw [preload_cons_of_error result, following]
          simp [← fresh, Except.isOk, Except.toBool]

/-- One request to a faithful library is answered as by a fresh one. -/
theorem Faithful.run_transparent (faithful : Faithful sources loader library) {request : Step}
    (steady : request.Steady sources) :
    request.Transparent (freshLoad sources loader) (request.run library).1 := by
  cases request with
  | load id => exact congrArg Answer.loaded (faithful.load_fst_eq_freshLoad id)
  | loadFrom id path =>
      have stored : path = library.sources.pathFor id := by
        rw [faithful.reads_sources]
        exact steady
      subst stored
      exact congrArg Answer.loaded (faithful.load_fst_eq_freshLoad id)
  | preload ids => exact faithful.preload_fst ids
  | get id => exact ⟨_, rfl, fun flow kept => faithful.freshLoad_of_kept kept⟩
  | isKept id =>
      refine ⟨_, rfl, fun kept => ?_⟩
      rcases Option.isSome_iff_exists.1 kept with ⟨flow, found⟩
      exact ⟨flow, faithful.freshLoad_of_kept found⟩
  | evict id => trivial
  | pathOf id => trivial
  | putText path text => trivial

theorem Faithful.runAll_transparent (faithful : Faithful sources loader library)
    {requests : List Step} (steady : ∀ request ∈ requests, request.Steady sources) :
    List.Forall₂ (Step.Transparent (freshLoad sources loader)) requests
      (runAll requests library).1 := by
  induction requests generalizing library with
  | nil => exact .nil
  | cons request rest ih =>
      have first := steady request List.mem_cons_self
      apply List.Forall₂.cons (faithful.run_transparent first)
      apply ih (faithful.run first)
      intro other member
      exact steady other (List.mem_cons_of_mem request member)

/-- However the requests follow each other, every answer is that of a fresh library. -/
theorem transparent_of_steady (sources : Sources) (loader : Loader) {requests : List Step}
    (steady : ∀ request ∈ requests, request.Steady sources) :
    List.Forall₂ (Step.Transparent (freshLoad sources loader)) requests
      (runAll requests { sources, loader }).1 :=
  (Faithful.empty sources loader).runAll_transparent steady

/-- Two identifiers share a text, which declares one of them. -/
def sampleShared : Library :=
  { sources := { explicit := [("twin", "home.json")] }
    loader := .ofTable
      [("home.json", (Flow.toJson ⟨"home", [], [("start", .obj [])]⟩).compact)] }

def sampleRequests : List Step :=
  [.preload ["home", "ghost", "home"], .get "home", .load "home", .evict (some "home"),
    .get "home", .load "twin", .load "home", .evict none, .load "home"]

/-- Five of the seven loads read a text, the others find the flow kept. -/
theorem transparent_of_steady_of_shared :
    (∀ request ∈ sampleRequests, request.Steady sampleShared.sources) ∧
      (runAll sampleRequests sampleShared).2.reads =
        ["home.json", "ghost.json", "home.json", "home.json", "home.json"] ∧
      List.Forall₂ (Step.Transparent (freshLoad sampleShared.sources sampleShared.loader))
        sampleRequests (runAll sampleRequests sampleShared).1 := by
  have steady : ∀ request ∈ sampleRequests, request.Steady sampleShared.sources := by
    simp [sampleRequests, Step.Steady]
  exact ⟨steady, by decide +kernel, transparent_of_steady _ _ steady⟩

end Library

end Storyboard
