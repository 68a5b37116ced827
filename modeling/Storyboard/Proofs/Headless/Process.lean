import Mathlib.Data.Prod.Lex
import Mathlib.Logic.Relation
import Mathlib.Order.WellFounded
import Storyboard.Proofs.Headless.Fold
/-!
# The runner and its printer

The runner is two tasks. One takes the input and shows the screens; the messages of the engine
go into a channel, from which the other one, the printer, takes and shows them in its own time.
When the input is at its end the engine is dropped, which closes the channel, and the runner
waits for the printer, which ends once the channel is closed and empty and its lines are out.

Whatever the tasks and their buffers do first, the process comes to its end, and by then the
lines of both are those of `Headless.drive`. What the process will have shown is the same before
and after every step (`Process.report`), and no message is lost between the engine and the
printer's lines (`Process.Sound`).

Main result: `run_delivers`.
-/

namespace Storyboard

namespace Headless

open Engine

/-- The lines of a task: those that are out, and those in its buffer. -/
structure Outlet (α : Type) where
  written : List α := []
  pending : List α := []

namespace Outlet

variable {α : Type}

def lines (outlet : Outlet α) : List α := outlet.written ++ outlet.pending

def put (outlet : Outlet α) (lines : List α) : Outlet α :=
  { outlet with pending := outlet.pending ++ lines }

@[simp]
theorem lines_put (outlet : Outlet α) (lines : List α) :
    (outlet.put lines).lines = outlet.lines ++ lines := by
  simp [put, Outlet.lines]

end Outlet

/-- Where the first task stands. -/
inductive Stage where
  /-- The first screen is not shown yet. -/
  | opening
  | reading
  /-- An event is being handled; these of its messages are not sent yet. -/
  | answering (event : Event) (unsent : List Message)
  /-- The engine is dropped, the printer is waited for. -/
  | closing
  | ended

namespace Stage

/-- Whether nothing will be sent any more. -/
def isClosed : Stage → Bool
  | closing | ended => true
  | _ => false

def unsent : Stage → List Message
  | answering _ messages => messages
  | _ => []

/-- The stages that are left before the end, up to the lines of the input. -/
def rank : Stage → Nat
  | opening | answering .. => 3
  | reading => 2
  | closing => 1
  | ended => 0

end Stage

/-- The two tasks and what is between them. -/
structure Process where
  engine : Engine
  unread : List String
  stage : Stage := .opening
  /-- The messages sent and not received, the oldest first. -/
  channel : List Message
  printing : Bool := true
  screens : Outlet Screen := {}
  messages : Outlet Message := {}

namespace Process

/-- The process of a started engine: the messages of its start are in the channel. -/
def begin (input : String) (engine : Engine) : Process :=
  { engine, unread := Text.lines input, channel := engine.sent.reverse }

inductive Step : Process → Process → Prop where
  | opens {process : Process} (stage : process.stage = .opening) :
      Step process
        { process with
          engine := (opening process.engine).2
          stage := .reading
          screens := process.screens.put (opening process.engine).1 }
  | skips {process : Process} {line : String} {rest : List String}
      (stage : process.stage = .reading) (unread : process.unread = line :: rest)
      (idle : Bears line none) :
      Step process { process with unread := rest }
  /-- An event is handled. Only its messages can be seen from outside, so the engine may change
  at once and they follow one after another. -/
  | takes {process : Process} {line : String} {rest : List String} {event : Event}
      (stage : process.stage = .reading) (unread : process.unread = line :: rest)
      (bears : Bears line (some event)) :
      Step process
        { process with
          engine := Turn.handled ⟨event, process.engine⟩
          unread := rest
          stage := .answering event (Turn.news ⟨event, process.engine⟩) }
  | sends {process : Process} {event : Event} {message : Message} {rest : List Message}
      (stage : process.stage = .answering event (message :: rest)) :
      Step process
        { process with
          stage := .answering event rest
          channel := process.channel ++ [message] }
  | shows {process : Process} {event : Event} (stage : process.stage = .answering event []) :
      Step process
        { process with
          engine := (process.engine.currentScreen (valuesAfter event)).2
          stage := .reading
          screens := process.screens.put
            (process.engine.currentScreen (valuesAfter event)).1.toOption.toList }
  | closes {process : Process} (stage : process.stage = .reading)
      (unread : process.unread = []) :
      Step process { process with stage := .closing }
  | receives {process : Process} {message : Message} {rest : List Message}
      (printing : process.printing = true) (channel : process.channel = message :: rest) :
      Step process
        { process with
          channel := rest
          messages := process.messages.put [message] }
  | writesScreen {process : Process} {screen : Screen} {rest : List Screen}
      (pending : process.screens.pending = screen :: rest) :
      Step process
        { process with screens := ⟨process.screens.written ++ [screen], rest⟩ }
  | writesMessage {process : Process} {message : Message} {rest : List Message}
      (pending : process.messages.pending = message :: rest) :
      Step process
        { process with messages := ⟨process.messages.written ++ [message], rest⟩ }
  /-- The printer ends. -/
  | finishes {process : Process} (printing : process.printing = true)
      (closed : process.stage.isClosed = true) (channel : process.channel = [])
      (pending : process.messages.pending = []) :
      Step process { process with printing := false }
  | exits {process : Process} (stage : process.stage = .closing)
      (stopped : process.printing = false) (pending : process.screens.pending = []) :
      Step process { process with stage := .ended }

abbrev Reaches : Process → Process → Prop := Relation.ReflTransGen Step

variable {process next : Process} {input : String} {engine : Engine}

/-! ### What will have been shown -/

/-- The screens that are still to be shown, and the engine afterwards. -/
def rest (process : Process) : List Screen × Engine :=
  match process.stage with
  | .opening =>
    let (first, engine) := opening process.engine
    let (following, engine) := takeLines process.unread engine
    (first ++ following, engine)
  | .reading => takeLines process.unread process.engine
  | .answering event _ =>
    let (screen, engine) := process.engine.currentScreen (valuesAfter event)
    let (following, engine) := takeLines process.unread engine
    (screen.toOption.toList ++ following, engine)
  | .closing | .ended => ([], process.engine)

/-- What the process will have shown at its end. -/
def report (process : Process) : Report :=
  { screens := process.screens.lines ++ process.rest.1
    messages := process.rest.2.sent.reverse }

theorem begin_report (input : String) (engine : Engine) :
    (begin input engine).report = drive input engine := rfl

theorem Step.report_eq (step : Step process next) : next.report = process.report := by
  cases step with
  | opens stage => simp [report, rest, stage]
  | skips stage unread idle =>
      simp [report, rest, stage, unread, takeLines, takeLine_of_idle idle]
  | takes stage unread bears =>
      simp [report, rest, stage, unread, takeLines, takeLine_of_event bears, Turn.answer,
        Turn.after]
  | sends stage => simp [report, rest, stage]
  | shows stage => simp [report, rest, stage]
  | closes stage unread => simp [report, rest, stage, unread, takeLines]
  | receives printing channel => rfl
  | writesScreen pending => simp [report, rest, Outlet.lines, pending]
  | writesMessage pending => rfl
  | finishes printing closed channel pending => rfl
  | exits stage stopped pending => simp [report, rest, stage]

theorem Reaches.report_eq (reaches : Reaches process next) : next.report = process.report := by
  induction reaches with
  | refl => rfl
  | tail _ step ih => exact step.report_eq.trans ih

/-! ### Where the messages are -/

/-- Every message that the engine sent is with the printer, in the channel or about to be sent,
in this order, and a task ends only once nothing is left for it. -/
structure Sound (process : Process) : Prop where
  sent : process.messages.lines ++ process.channel ++ process.stage.unsent =
    process.engine.sent.reverse
  stopped : process.printing = false →
    process.stage.isClosed = true ∧ process.channel = [] ∧ process.messages.pending = []
  ended : process.stage = .ended → process.printing = false ∧ process.screens.pending = []

theorem begin_sound (input : String) (engine : Engine) : (begin input engine).Sound := by
  refine ⟨?_, nofun, nofun⟩
  simp [begin, Outlet.lines, Stage.unsent]

theorem Step.sound (step : Step process next) (sound : process.Sound) : next.Sound := by
  obtain ⟨sent, stopped, ended⟩ := sound
  cases step with
  | opens stage =>
      rw [stage] at sent stopped
      refine ⟨?_, fun stops => absurd (stopped stops).1 nofun, nofun⟩
      rw [opening_sent]
      exact sent
  | skips stage unread idle => exact ⟨sent, stopped, ended⟩
  | takes stage unread bears =>
      rw [stage] at sent stopped
      refine ⟨?_, fun stops => absurd (stopped stops).1 nofun, nofun⟩
      simp only [Stage.unsent, List.append_nil] at sent ⊢
      rw [sent, Turn.handled_sent]
  | sends stage =>
      rw [stage] at sent stopped
      refine ⟨?_, fun stops => absurd (stopped stops).1 nofun, nofun⟩
      rw [← sent]
      simp [Stage.unsent]
  | shows stage =>
      rw [stage] at sent stopped
      refine ⟨?_, fun stops => absurd (stopped stops).1 nofun, nofun⟩
      rw [currentScreen_sent]
      exact sent
  | closes stage unread =>
      rw [stage] at sent stopped
      exact ⟨sent, fun stops => absurd (stopped stops).1 nofun, nofun⟩
  | receives printing channel =>
      refine ⟨?_, fun stops => absurd (printing.symm.trans stops) nofun, ended⟩
      rw [← sent, channel]
      simp
  | writesScreen pending =>
      refine ⟨sent, stopped, ?_⟩
      intro atEnd
      cases pending.symm.trans (ended atEnd).2
  | writesMessage pending =>
      refine ⟨?_, ?_, ended⟩
      · rw [← sent]
        simp [Outlet.lines, pending]
      · intro stops
        cases pending.symm.trans (stopped stops).2.2
  | finishes printing closed channel pending =>
      refine ⟨sent, fun _ => ⟨closed, channel, pending⟩, ?_⟩
      intro atEnd
      exact ⟨rfl, (ended atEnd).2⟩
  | exits stage isStopped pending =>
      rw [stage] at sent
      refine ⟨sent, ?_, fun _ => ⟨isStopped, pending⟩⟩
      intro stops
      exact ⟨rfl, (stopped stops).2⟩

theorem Reaches.sound (reaches : Reaches process next) (sound : process.Sound) : next.Sound := by
  induction reaches with
  | refl => exact sound
  | tail _ step ih => exact step.sound ih

/-! ### The end of the process -/

/-- The work that is left: stages and lines of input first, then what the tasks still pass on.
A message is passed on three times, from the engine to the channel, to the printer and out. -/
def work (process : Process) : ℕ ×ₗ ℕ :=
  toLex (2 * process.unread.length + process.stage.rank,
    3 * process.stage.unsent.length + 2 * process.channel.length +
      process.messages.pending.length + process.screens.pending.length +
      process.printing.toNat)

theorem Step.work_lt (step : Step process next) : next.work < process.work := by
  rw [work, work, Prod.Lex.toLex_lt_toLex]
  cases step with
  | opens stage =>
      left
      simp [stage, Stage.rank]
  | skips stage unread idle =>
      left
      simp [unread]
  | takes stage unread bears =>
      left
      simp only [stage, unread, Stage.rank, List.length_cons]
      omega
  | sends stage =>
      right
      refine ⟨by simp [stage, Stage.rank], ?_⟩
      simp only [stage, Stage.unsent, List.length_append, List.length_cons, List.length_nil]
      omega
  | shows stage =>
      left
      simp [stage, Stage.rank]
  | closes stage unread =>
      left
      simp [stage, unread, Stage.rank]
  | receives printing channel =>
      right
      refine ⟨rfl, ?_⟩
      simp only [channel, Outlet.put, List.length_append, List.length_cons, List.length_nil]
      omega
  | writesScreen pending =>
      right
      refine ⟨rfl, ?_⟩
      simp only [pending, List.length_cons]
      omega
  | writesMessage pending =>
      right
      refine ⟨rfl, ?_⟩
      simp only [pending, List.length_cons]
      omega
  | finishes printing closed channel pending =>
      right
      refine ⟨rfl, ?_⟩
      simp [printing]
  | exits stage stopped pending =>
      left
      simp [stage, Stage.rank]

theorem step_wellFounded : WellFounded fun next process : Process => Step process next :=
  Subrelation.wf Step.work_lt (InvImage.wf work wellFounded_lt)

/-- Before its end the process never waits for itself. -/
theorem exists_step (unfinished : process.stage ≠ .ended) : ∃ next, Step process next := by
  cases stage : process.stage with
  | opening => exact ⟨_, .opens stage⟩
  | reading =>
      cases unread : process.unread with
      | nil => exact ⟨_, .closes stage unread⟩
      | cons line rest =>
          cases isEvent : eventOf? line with
          | none => exact ⟨_, .skips stage unread (bears_iff.2 isEvent)⟩
          | some event => exact ⟨_, .takes stage unread (bears_iff.2 isEvent)⟩
  | answering event unsent =>
      cases unsent with
      | nil => exact ⟨_, .shows stage⟩
      | cons message rest => exact ⟨_, .sends stage⟩
  | closing =>
      have closed : process.stage.isClosed = true := by
        rw [stage]
        rfl
      cases screens : process.screens.pending with
      | cons screen rest => exact ⟨_, .writesScreen screens⟩
      | nil =>
          cases messages : process.messages.pending with
          | cons message rest => exact ⟨_, .writesMessage messages⟩
          | nil =>
              cases printing : process.printing with
              | false => exact ⟨_, .exits stage printing screens⟩
              | true =>
                  cases channel : process.channel with
                  | nil => exact ⟨_, .finishes printing closed channel messages⟩
                  | cons message rest => exact ⟨_, .receives printing channel⟩
  | ended => exact (unfinished stage).elim

/-! ### The lines that are out -/

theorem Sound.written_of_ended (sound : process.Sound) (atEnd : process.stage = .ended) :
    process.screens.written = process.report.screens ∧
      process.messages.written = process.report.messages := by
  obtain ⟨stopped, screens⟩ := sound.ended atEnd
  obtain ⟨-, channel, messages⟩ := sound.stopped stopped
  have sent := sound.sent
  simp only [Outlet.lines, messages, channel, atEnd, Stage.unsent, List.append_nil] at sent
  simp only [report, rest, atEnd, Outlet.lines, screens, List.append_nil, sent, and_self]

theorem sent_prefix_rest (process : Process) :
    process.engine.sent.reverse <+: process.rest.2.sent.reverse := by
  cases stage : process.stage with
  | opening =>
      simp only [rest, stage, takeLines_messages, opening_sent]
      exact List.prefix_append _ _
  | reading =>
      simp only [rest, stage, takeLines_messages]
      exact List.prefix_append _ _
  | answering event unsent =>
      simp only [rest, stage, takeLines_messages, currentScreen_sent]
      exact List.prefix_append _ _
  | closing => simp only [rest, stage, List.prefix_rfl]
  | ended => simp only [rest, stage, List.prefix_rfl]

/-- At any time the lines that are out are a beginning of those of the report. -/
theorem Sound.out_of_report (sound : process.Sound) :
    process.screens.written <+: process.report.screens ∧
      process.messages.written <+: process.report.messages := by
  constructor
  · simp only [report, Outlet.lines, List.append_assoc]
    exact List.prefix_append _ _
  · refine List.IsPrefix.trans ?_ process.sent_prefix_rest
    rw [← sound.sent]
    simp only [Outlet.lines, List.append_assoc]
    exact List.prefix_append _ _

/-- What is promised of the process of an input. -/
structure Delivers (input : String) (engine : Engine) (report : Report) : Prop where
  /-- At any time the lines that are out are a beginning of the report. -/
  ordered : ∀ process, Reaches (begin input engine) process →
    process.screens.written <+: report.screens ∧ process.messages.written <+: report.messages
  /-- When the process has ended, all of them are out. -/
  complete : ∀ process, Reaches (begin input engine) process → process.stage = .ended →
    process.screens.written = report.screens ∧ process.messages.written = report.messages
  /-- The process does not stop before its end, -/
  proceeds : ∀ process, Reaches (begin input engine) process → process.stage ≠ .ended →
    ∃ next, Step process next
  /-- and it does not go on for ever. -/
  ends : ¬∃ course : ℕ → Process, course 0 = begin input engine ∧
    ∀ time, Step (course time) (course (time + 1))

theorem begin_delivers (input : String) (engine : Engine) :
    Delivers input engine (drive input engine) := by
  have sound : ∀ {process}, Reaches (begin input engine) process → process.Sound :=
    fun reaches => reaches.sound (begin_sound input engine)
  refine ⟨?_, ?_, fun process _ => exists_step, ?_⟩
  · intro process reaches
    have out := (sound reaches).out_of_report
    rw [reaches.report_eq, begin_report] at out
    exact out
  · intro process reaches atEnd
    have out := (sound reaches).written_of_ended atEnd
    rw [reaches.report_eq, begin_report] at out
    exact out
  · rintro ⟨course, -, steps⟩
    exact (wellFounded_iff_isEmpty_descending_chain.1 step_wellFounded).false ⟨course, steps⟩

end Process

/-- The runner on an input, from its arguments on: what it shows is a fold over the events that
the lines of the input describe, whatever a network answers, and all of it is out before the
process ends. Events that are printed one to a line are the ones that are taken. -/
theorem run_delivers {loader : Loader} {arguments : List String} {file : Option String}
    {environment : Environment} {engine : Engine}
    (started : start loader arguments file environment = .ok engine) (input : String)
    (replies : Table (List (Reply Engine.Step))) :
    run loader arguments file environment input = .ok (drive input engine) ∧
      (∀ line, TakesLine line) ∧
      (∀ events : List Event, (∀ event ∈ events, event.Plain) →
        Supplies (inputOf events) events) ∧
      (∃ events, (∀ others, Supplies input others ↔ others = events) ∧
        (drive input { engine with replies }).Folds events { engine with replies }) ∧
      Process.Delivers input { engine with replies } (drive input { engine with replies }) := by
  refine ⟨?_, takesLine, fun _ => supplies_inputOf,
    ⟨eventsOf input, fun _ => supplies_iff, drive_folds _ _⟩, Process.begin_delivers _ _⟩
  rw [run, started]
  rfl

/-- A flow with a form, and one that greets by what was filled in. -/
def sampleLoader : Loader :=
  .ofTable
    [("flows/hall.json",
        (Flow.toJson ⟨"hall", [], [("greeting", .str "Hello $\x7bfields.name\x7d")]⟩).compact),
      ("flows/home.json", (Flow.toJson ⟨"home", [], [("form", .str "Who?")]⟩).compact)]

/-- The form is filled in, then comes an action that is none, and the user goes back. -/
def sampleEvents : List Event :=
  [.actionTriggered
      (.obj [("action", .str "navigateToFlow"), ("targetFlow", .str "hall"),
        ("targetScreen", .str "greeting")])
      [("name", .str "Ada")],
    .actionTriggered .null [], .backPressed]

/-- The events behind other lines; the last line is not ended. -/
def sampleInput : String := " " ++ "\n" ++ ("no event" ++ "\n" ++ inputOf sampleEvents)

def sampleReport : Report where
  screens :=
    [⟨"home", "form", .str "Who?"⟩, ⟨"hall", "greeting", .str "Hello Ada"⟩,
      ⟨"hall", "greeting", .str "Hello $\x7bfields.name\x7d"⟩, ⟨"home", "form", .str "Who?"⟩]
  messages :=
    [.screenChanged "home" "form", .screenChanged "hall" "greeting",
      .diagnostic .error
        "malformed action trigger: field `<root>` must be an object or an array",
      .screenChanged "home" "form"]

theorem plain_of_mem_sampleEvents : ∀ event ∈ sampleEvents, event.Plain := by
  have texts : ∀ {fields : Fields}, fields.Ordered →
      (∀ entry ∈ fields, ∃ text, entry.2 = .str text) →
        (Json.obj fields).Printable Written.fieldDepth := by
    intro fields ordered each
    refine .obj ordered fun key value member => ?_
    rcases each _ member with ⟨text, rfl⟩
    exact .str text
  intro event among
  simp only [sampleEvents, List.mem_cons, List.not_mem_nil, or_false] at among
  rcases among with rfl | rfl | rfl
  · exact ⟨texts (Table.ordered_of_keys (by decide)) (by simp),
      texts (Table.ordered_of_keys (by decide)) (by simp)⟩
  · exact ⟨.null, texts .nil nofun⟩
  · trivial

theorem run_delivers_of_greeting :
    ∃ engine, start sampleLoader ["home"] none (.ofTable []) = .ok engine ∧
      run sampleLoader ["home"] none (.ofTable []) sampleInput = .ok sampleReport ∧
      Supplies sampleInput sampleEvents ∧ sampleReport.Folds sampleEvents engine ∧
      Process.Delivers sampleInput engine sampleReport := by
  have shows : run sampleLoader ["home"] none (.ofTable []) sampleInput = .ok sampleReport := by
    decide +kernel
  cases started : start sampleLoader ["home"] none (.ofTable []) with
  | error failure =>
      rw [run, started] at shows
      cases shows
  | ok engine =>
      rcases run_delivers started sampleInput engine.replies with
        ⟨ran, -, printed, ⟨events, only, folds⟩, delivers⟩
      have supplies : Supplies sampleInput sampleEvents :=
        .feed (by decide) (by decide) (.blank (by decide))
          (.feed (by decide) (by decide) (.unknown (by decide +kernel))
            (printed _ plain_of_mem_sampleEvents))
      have same : drive sampleInput engine = sampleReport := Except.ok.inj (ran.symm.trans shows)
      have events_eq : sampleEvents = events := (only sampleEvents).1 supplies
      subst events_eq
      exact ⟨engine, rfl, shows, supplies, same ▸ folds, same ▸ delivers⟩

end Headless

end Storyboard
