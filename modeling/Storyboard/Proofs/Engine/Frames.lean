import Storyboard.Proofs.Context
import Storyboard.Proofs.Engine.Always
import Storyboard.Proofs.Navigation
/-!
# Every frame can be shown

While the texts of the flows stay as they are, the user can never be anywhere, or get back
anywhere, that cannot be drawn. A screen is checked when the user goes there, against the
flow that the library keeps; a faithful library makes that check good for later.

Main result: `frames_always_shown`.
-/

namespace Storyboard

/-- A fresh load of the frame's flow gives a flow that has the frame's screen. -/
def Frame.Shown (sources : Sources) (loader : Loader) (frame : Frame) : Prop :=
  ∃ flow, (Library.load { sources, loader } frame.flow).1 = .ok flow ∧
    flow.hasScreen frame.screen = true

/-- A back stack that starts in the entry flow, every frame of which can be shown. -/
structure BackStack.Sound (sources : Sources) (loader : Loader) (entry : String)
    (stack : BackStack) : Prop where
  bottom : stack.bottom.flow = entry
  shown : ∀ frame ∈ stack.fromTop, frame.Shown sources loader

variable {sources : Sources} {loader : Loader} {entry : String}

/-- A frame whose screen was found in the flow that a faithful library keeps. -/
theorem Frame.shown_of_kept {library : Library} {frame : Frame} {flow : Flow}
    (faithful : library.Faithful sources loader)
    (found : library.kept.get? frame.flow = some flow)
    (has : flow.hasScreen frame.screen = true) : frame.Shown sources loader := by
  refine ⟨flow, ?_, has⟩
  rw [(Library.Faithful.empty sources loader).load_fst]
  exact faithful.kept frame.flow flow found

namespace BackStack.Sound

variable {stack : BackStack} {frame : Frame}

theorem ofRoot (root : frame.flow = entry) (shown : frame.Shown sources loader) :
    (BackStack.ofRoot frame).Sound sources loader entry := by
  refine ⟨root, ?_⟩
  intro other member
  rw [fromTop_ofRoot, List.mem_singleton] at member
  rw [member]
  exact shown

theorem push (sound : stack.Sound sources loader entry) (shown : frame.Shown sources loader) :
    (stack.push frame).Sound sources loader entry := by
  refine ⟨?_, ?_⟩
  · rw [bottom_push]
    exact sound.bottom
  · intro other member
    rw [fromTop_push] at member
    rcases List.mem_cons.1 member with rfl | old
    · exact shown
    · exact sound.shown other old

theorem replaceScreen (sound : stack.Sound sources loader entry) {screen : String}
    (shown : Frame.Shown sources loader ⟨stack.current.flow, screen⟩) :
    (stack.replaceScreen screen).Sound sources loader entry := by
  refine ⟨?_, ?_⟩
  · rw [bottom_flow_replaceScreen]
    exact sound.bottom
  · intro other member
    rw [fromTop_replaceScreen] at member
    rcases List.mem_cons.1 member with rfl | old
    · exact shown
    · exact sound.shown other (List.mem_cons_of_mem _ old)

theorem goBack (sound : stack.Sound sources loader entry) (steps : Nat) :
    (stack.goBack steps).2.Sound sources loader entry := by
  refine ⟨?_, ?_⟩
  · rw [bottom_goBack]
    exact sound.bottom
  · intro other member
    exact sound.shown other (mem_of_mem_goBack member)

end BackStack.Sound

namespace Engine

/-- The library is faithful; the root, the back stack and every saved context are sound. -/
structure Sound (sources : Sources) (loader : Loader) (entry : String) (engine : Engine) :
    Prop where
  library : engine.library.Faithful sources loader
  root : (BackStack.ofRoot engine.root).Sound sources loader entry
  stack : engine.context.navigation.Sound sources loader entry
  backups : ∀ backup ∈ engine.backups, backup.2.navigation.Sound sources loader entry

variable {engine next : Engine}

theorem sound_of_start {ahead : List String}
    (started : (start { sources, loader } ahead entry).1 = .ok engine) :
    engine.Sound sources loader entry := by
  rcases start_ok started with
    ⟨flow, screen, loaded, first, root, context, library, backups, -⟩
  have fresh := Library.Faithful.empty sources loader
  have shown : Frame.Shown sources loader ⟨entry, screen⟩ :=
    ⟨flow, loaded, Flow.hasScreen_of_initialScreen? first⟩
  have rooted := BackStack.Sound.ofRoot rfl shown
  refine ⟨?_, ?_, ?_, ?_⟩
  · rw [library]
    exact (fresh.load_snd entry).preload_snd ahead
  · rw [root]
    exact rooted
  · rw [context]
    exact rooted
  · intro backup member
    rw [backups] at member
    cases member

theorem Sound.move (move : Move (Library.Step.Steady sources) engine next)
    (sound : engine.Sound sources loader entry) : next.Sound sources loader entry := by
  rcases sound with ⟨library, root, stack, backups⟩
  cases move with
  | kept phases calls observed listening reads =>
      exact ⟨library.of_kept rfl rfl fun _ _ found => Or.inl found, root, stack, backups⟩
  | loaded flow => exact ⟨library.load_snd flow, root, stack, backups⟩
  | libraryAsked allows => exact ⟨library.run allows, root, stack, backups⟩
  | navigated found has =>
      exact ⟨library, root, stack.replaceScreen (Frame.shown_of_kept library found has), backups⟩
  | pushed frame data found has =>
      simp only [sendAll_eq]
      exact ⟨library, root, stack.push (Frame.shown_of_kept library found has), backups⟩
  | wentBack steps clearData =>
      simp only [sendAll_eq]
      refine ⟨library, root, ?_, backups⟩
      change (engine.context.goBack steps clearData).2.navigation.Sound sources loader entry
      rw [Context.goBack_navigation]
      exact stack.goBack steps
  | stateSet updates =>
      simp only [sendAll_eq]
      exact ⟨library, root, stack, backups⟩
  | valueDropped key =>
      rw [dropValue_eq]
      split
      · exact ⟨library, root, stack, backups⟩
      · exact ⟨library, root, stack, backups⟩
  | backedUp name =>
      refine ⟨library, root, stack, ?_⟩
      intro backup member
      rcases Table.mem_put member with rfl | old
      · exact stack
      · exact backups backup old
  | restored runSteps found =>
      rw [takeObserved_restore runSteps found]
      refine ⟨library.of_kept rfl rfl fun _ _ found => Or.inl found, root, ?_, backups⟩
      exact backups _ (Table.mem_of_get? found)
  | loggedOut => exact ⟨library, root, root, backups⟩
  | _ => exact ⟨library, root, stack, backups⟩

/-- A sound engine has a screen to show. -/
theorem Sound.currentScreen (sound : engine.Sound sources loader entry) (fields : Fields) :
    ∃ screen, (engine.currentScreen fields).1 = .ok screen := by
  rcases sound.stack.shown engine.context.current List.mem_cons_self with ⟨flow, fresh, has⟩
  rw [(Library.Faithful.empty sources loader).load_fst, ← sound.library.load_fst] at fresh
  rw [currentScreen_fst, fresh]
  rcases Option.isSome_iff_exists.1 has with ⟨screen, found⟩
  have found : flow.screen? engine.context.current.screen = some screen := found
  simp only [found]
  exact ⟨_, rfl⟩

/-- What is promised of the navigation at a moment: the back stack starts in the entry flow,
and each frame on it and in each saved context can be shown. -/
structure Snapshot.Navigable (sources : Sources) (loader : Loader) (entry : String)
    (seen : Snapshot) : Prop where
  bottom : ∃ frame, seen.context.navigation.frames.head? = some frame ∧ frame.flow = entry
  stack : ∀ frame ∈ seen.context.navigation.frames, frame.Shown sources loader
  backups : ∀ backup ∈ seen.backups, ∀ frame ∈ backup.2.navigation.frames,
    frame.Shown sources loader

theorem Sound.navigable (sound : engine.Sound sources loader entry) :
    engine.snapshot.Navigable sources loader entry := by
  refine ⟨?_, ?_, ?_⟩
  · exact ⟨_, BackStack.head?_frames _, sound.stack.bottom⟩
  · intro frame member
    exact sound.stack.shown frame (BackStack.mem_frames.1 member)
  · intro backup member frame among
    exact (sound.backups backup member).shown frame (BackStack.mem_frames.1 among)

/-- What is promised of an engine and its history: at every moment the navigation is as
promised and whoever asks for the screen gets one, and so it is afterwards. -/
structure AlwaysShown (sources : Sources) (loader : Loader) (entry : String)
    (engine : Engine) : Prop where
  moments : ∀ moment ∈ engine.history, moment.seen.Navigable sources loader entry
  answers : ∀ moment ∈ engine.history, ∀ step result,
    moment.happening = .answered step (.screen result) → ∃ screen, result = .ok screen
  now : engine.snapshot.Navigable sources loader entry
  screen : ∀ fields, ∃ screen, (engine.currentScreen fields).1 = .ok screen

/-- After a start, while texts stay as they are and flows are read only from where they are
stored, every frame can be shown throughout every history. -/
theorem frames_always_shown {ahead : List String}
    (started : (start { sources, loader } ahead entry).1 = .ok engine)
    (registry : Registry Step) (replies : Table (List (Reply Step))) (steps : List Step)
    (depth : Nat)
    (hosts : Obeys (Library.Step.Steady sources) { engine with registry, replies })
    (steady : ∀ step ∈ steps, step.Obeys (Library.Step.Steady sources)) :
    AlwaysShown sources loader entry
      (runToDepth depth steps { engine with registry, replies }).2 := by
  have always := Always.runToDepth registry replies steps depth Sound.move started
    (sound_of_start started) hosts steady
  refine ⟨?_, ?_, always.now.navigable, always.now.currentScreen⟩
  · intro moment member
    rcases always.past moment member with ⟨shown, sound, shows⟩
    rw [shows.seen]
    exact sound.navigable
  · intro moment member step result answered
    rcases always.past moment member with ⟨shown, sound, shows⟩
    have truthful := shows.truthful
    rw [answered] at truthful
    rcases truthful with ⟨fields, same⟩
    rw [same]
    exact sound.currentScreen fields

/-- The context is saved and the user goes to another flow while a request is pending. -/
theorem frames_always_shown_of_nested :
    ∃ engine, (start sampleLibrary ["shop"] "home").1 = .ok engine ∧
      let hosted := { engine with registry := [], replies := sampleReplies }
      Obeys (Library.Step.Steady sampleLibrary.sources) hosted ∧
      (∀ step ∈ sampleSteps, step.Obeys (Library.Step.Steady sampleLibrary.sources)) ∧
      AlwaysShown sampleLibrary.sources sampleLibrary.loader "home"
        (runToDepth 2 sampleSteps hosted).2 := by
  rcases sampleLibrary_starts with ⟨engine, started⟩
  have hosts := sampleReplies_obey (Library.Step.Steady sampleLibrary.sources) engine
  have steady := sampleSteps_obey (Library.Step.Steady sampleLibrary.sources)
  exact ⟨engine, started, hosts, steady,
    frames_always_shown started [] sampleReplies sampleSteps 2 hosts steady⟩

end Engine

end Storyboard
