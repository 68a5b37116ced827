import Storyboard.Headless
import Storyboard.Proofs.Engine.History
import Storyboard.Proofs.Event
/-!
# The runner as a fold

An input supplies the events that its lines describe, one after another; every other line is as
good as not there. The runner takes the events in turn, each with the engine that the ones before
it left. A turn shows the screen after its event and sends the messages of its handling, which
come behind all earlier ones: an engine never takes a message back.

Main results: `supplies_iff`, `supplies_inputOf`, `takeLines_screens` and
`takeLines_messages`.
-/

namespace Storyboard

namespace Text

/-- Up to its first line feed a text is a line. -/
theorem lines_append {line : String} (unbroken : '\n' ∉ line.toList) (rest : String) :
    lines (line ++ "\n" ++ rest) = String.ofList (dropReturn line.toList) :: lines rest := by
  have text : (line ++ "\n" ++ rest).toList = line.toList ++ '\n' :: rest.toList := by simp
  have nonempty := pieces_ne_nil '\n' rest.toList
  rw [lines, lines, text, pieces_append unbroken]
  cases cut : pieces '\n' rest.toList with
  | nil => exact (nonempty cut).elim
  | cons piece others => rfl

/-- What is left after the last line feed is a line, unless it is empty. -/
theorem lines_of_not_mem {line : String} (unbroken : '\n' ∉ line.toList) :
    lines line = if line = "" then [] else [line] := by
  rw [lines, pieces_of_not_mem unbroken]
  by_cases empty : line = ""
  · subst empty
    rfl
  · simp [lineChars, empty]

/-- The carriage return before the line feed goes, -/
theorem dropReturn_append_return (line : List Char) : dropReturn (line ++ ['\r']) = line := by
  induction line with
  | nil => rfl
  | cons c rest ih =>
      have more : rest ++ ['\r'] ≠ [] := by simp
      rw [List.cons_append, dropReturn, ih]
      exact fun _ => more

/-- and nothing else does. -/
theorem dropReturn_of_bare {line : List Char} (bare : line.getLast? ≠ some '\r') :
    dropReturn line = line := by
  induction line with
  | nil => rfl
  | cons c rest ih =>
      cases rest with
      | nil =>
          have distinct : c ≠ '\r' := by simpa using bare
          rw [dropReturn]
          · rfl
          · simp [distinct]
      | cons d rest =>
          rw [dropReturn, ih (by simpa [List.getLast?_cons_cons] using bare)]
          simp

end Text

namespace Engine

variable {allowed : Library.Step → Prop} {engine next : Engine}

theorem Move.sent_suffix (move : Move allowed engine next) : engine.sent <:+ next.sent := by
  cases move with
  | pushed frame data found has =>
      simp only [sendAll_eq]
      exact List.suffix_append _ _
  | stateSet updates =>
      simp only [sendAll_eq]
      exact List.suffix_append _ _
  | wentBack steps clearData =>
      simp only [sendAll_eq]
      exact List.suffix_append _ _
  | valueDropped key =>
      rw [dropValue_eq]
      split
      · exact List.suffix_cons _ _
      · exact List.suffix_rfl
  | restored runSteps found =>
      rw [takeObserved_restore runSteps found]
      exact (List.suffix_cons _ _).trans (List.suffix_cons _ _)
  | loggedOut => exact (List.suffix_cons _ _).trans (List.suffix_cons _ _)
  | diagnosed level text => exact List.suffix_cons _ _
  | navigated found has => exact List.suffix_cons _ _
  | valueSet key value => exact List.suffix_cons _ _
  | _ => exact List.suffix_rfl

theorem Moves.sent_suffix (moves : Moves allowed engine next) : engine.sent <:+ next.sent := by
  induction moves with
  | refl => exact List.suffix_rfl
  | tail _ move ih => exact ih.trans move.sent_suffix

/-- The messages that an engine sent on its way to a later one, in the order of sending. -/
def newsTo (engine next : Engine) : List Message :=
  (next.sent.take (next.sent.length - engine.sent.length)).reverse

theorem sent_eq_append_newsTo (grows : engine.sent <:+ next.sent) :
    next.sent.reverse = engine.sent.reverse ++ engine.newsTo next := by
  obtain ⟨news, isSent⟩ := grows
  rw [newsTo, ← isSent, List.length_append, Nat.add_sub_cancel, List.take_left,
    List.reverse_append]

theorem currentScreen_sent (engine : Engine) (fields : Fields) :
    (engine.currentScreen fields).2.sent = engine.sent := by
  rw [currentScreen_snd, load_eq]
  rfl

end Engine

namespace Headless

open Engine

/-! ### The events of an input -/

/-- What a line comes to: an event or nothing. -/
inductive Bears (line : String) : Option Event → Prop where
  | blank (blank : Text.isBlankText line = true) : Bears line none
  | unknown (unknown : Event.parse? line = none) : Bears line none
  | event {event : Event} (inked : Text.isBlankText line = false)
      (parsed : Event.parse? line = some event) : Bears line (some event)

/-- The events that an input supplies. A line of it ends at a line feed, and a carriage return
before that belongs to the end; what follows the last line feed is a line as well. -/
inductive Supplies : String → List Event → Prop where
  | last {line : String} {event? : Option Event} (unbroken : '\n' ∉ line.toList)
      (bears : Bears line event?) : Supplies line event?.toList
  | feed {line rest : String} {event? : Option Event} {later : List Event}
      (unbroken : '\n' ∉ line.toList) (bare : line.toList.getLast? ≠ some '\r')
      (bears : Bears line event?) (supplies : Supplies rest later) :
      Supplies (line ++ "\n" ++ rest) (event?.toList ++ later)
  | returnFeed {line rest : String} {event? : Option Event} {later : List Event}
      (unbroken : '\n' ∉ line.toList) (bears : Bears line event?)
      (supplies : Supplies rest later) :
      Supplies (line ++ "\r\n" ++ rest) (event?.toList ++ later)

variable {line input : String} {event? : Option Event} {event : Event} {events : List Event}
  {engine : Engine}

theorem bears_iff : Bears line event? ↔ eventOf? line = event? := by
  unfold eventOf?
  constructor
  · intro bears
    cases bears with
    | blank blank => rw [if_pos blank]
    | unknown unknown => rw [unknown, ite_self]
    | event inked parsed => rw [inked, parsed, if_neg Bool.false_ne_true]
  · rintro rfl
    by_cases blank : Text.isBlankText line = true
    · rw [if_pos blank]
      exact .blank blank
    · rw [if_neg blank]
      cases parsed : Event.parse? line with
      | none => exact .unknown parsed
      | some event => exact .event (by simpa using blank) parsed

/-- The events that the lines of an input describe. -/
def eventsOf (input : String) : List Event := (Text.lines input).filterMap eventOf?

/-- The line before the first line feed may bear an event. -/
theorem eventsOf_append (unbroken : '\n' ∉ line.toList) (rest : String) :
    eventsOf (line ++ "\n" ++ rest) =
      (eventOf? (String.ofList (Text.dropReturn line.toList))).toList ++ eventsOf rest := by
  simp only [eventsOf, Text.lines_append unbroken, List.filterMap_eq_flatMap_toList,
    List.flatMap_cons]

/-- So may the text after the last one; if it is empty it bears none. -/
theorem eventsOf_of_not_mem (unbroken : '\n' ∉ line.toList) :
    eventsOf line = (eventOf? line).toList := by
  rw [eventsOf, Text.lines_of_not_mem unbroken, List.filterMap_eq_flatMap_toList]
  by_cases empty : line = ""
  · subst empty
    rfl
  · rw [if_neg empty, List.flatMap_singleton]

theorem Supplies.eq (supplies : Supplies input events) : events = eventsOf input := by
  induction supplies with
  | last unbroken bears => rw [eventsOf_of_not_mem unbroken, bears_iff.1 bears]
  | feed unbroken bare bears _ ih =>
      rw [eventsOf_append unbroken, Text.dropReturn_of_bare bare, String.ofList_toList,
        bears_iff.1 bears, ih]
  | @returnFeed line rest event? later unbroken bears _ ih =>
      have text : line ++ "\r\n" ++ rest = line ++ "\r" ++ "\n" ++ rest := by
        simp [String.append_assoc]
      have unbroken' : '\n' ∉ (line ++ "\r").toList := by simpa using unbroken
      have dropped : String.ofList (Text.dropReturn (line ++ "\r").toList) = line := by
        rw [String.toList_append]
        exact (congrArg String.ofList (Text.dropReturn_append_return _)).trans String.ofList_toList
      rw [text, eventsOf_append unbroken', dropped, bears_iff.1 bears, ih]

theorem exists_supplies (input : String) : ∃ events, Supplies input events := by
  generalize size : input.toList.length = n
  induction n using Nat.strongRecOn generalizing input with
  | ind n ih =>
      by_cases broken : '\n' ∈ input.toList
      · rcases List.eq_append_cons_of_mem broken with ⟨line, rest, cut, unbroken⟩
        have shorter : rest.length < n := by
          rw [← size, cut, List.length_append, List.length_cons]
          omega
        rcases ih rest.length shorter (String.ofList rest) (by simp) with ⟨later, supplies⟩
        by_cases returned : line.getLast? = some '\r'
        · rcases List.getLast?_eq_some_iff.1 returned with ⟨start, rfl⟩
          have text : input = String.ofList start ++ "\r\n" ++ String.ofList rest := by
            apply String.toList_injective
            simp [cut]
          rw [text]
          refine ⟨_, .returnFeed ?_ (bears_iff.2 rfl) supplies⟩
          simpa using fun among => unbroken (List.mem_append_left _ among)
        · have text : input = String.ofList line ++ "\n" ++ String.ofList rest := by
            apply String.toList_injective
            simp [cut]
          rw [text]
          exact ⟨_, .feed (by simpa using unbroken) (by simpa using returned) (bears_iff.2 rfl)
            supplies⟩
      · exact ⟨_, .last broken (bears_iff.2 rfl)⟩

/-- Every input supplies one list of events. -/
theorem supplies_iff : Supplies input events ↔ events = eventsOf input := by
  constructor
  · exact Supplies.eq
  · rintro rfl
    rcases exists_supplies input with ⟨events, supplies⟩
    exact supplies.eq ▸ supplies

/-! ### Printed events -/

/-- A printed event starts and ends with a brace. -/
theorem exists_braced (event : Event) :
    ∃ inner, event.toJson.compact.toList = '\x7b' :: inner ++ ['\x7d'] := by
  have object : ∀ fields : Fields,
      ∃ inner, (Json.obj fields).compact.toList = '\x7b' :: inner ++ ['\x7d'] := by
    intro fields
    exact ⟨_, by rw [Json.compact, String.toList_append, String.toList_append]; rfl⟩
  exact object _

theorem bears_of_plain (plain : event.Plain) : Bears event.toJson.compact (some event) := by
  rcases exists_braced event with ⟨inner, text⟩
  refine .event ?_ (Event.parse?_toJson plain)
  rw [Text.isBlankText, text]
  rfl

/-- The events, printed one to a line. -/
def inputOf (events : List Event) : String :=
  String.intercalate "\n" (events.map fun event => event.toJson.compact)

/-- Events that are printed one to a line are supplied in this order. -/
theorem supplies_inputOf (plain : ∀ event ∈ events, event.Plain) :
    Supplies (inputOf events) events := by
  induction events with
  | nil => exact .last (by decide) (.blank rfl)
  | cons event rest ih =>
      rcases List.forall_mem_cons.1 plain with ⟨first, later⟩
      have unbroken := Json.not_mem_compact first.printable
      have bears := bears_of_plain first
      cases rest with
      | nil =>
          rw [inputOf, List.map_singleton, String.intercalate_singleton]
          exact .last unbroken bears
      | cons next more =>
          have bare : event.toJson.compact.toList.getLast? ≠ some '\r' := by
            rcases exists_braced event with ⟨inner, text⟩
            rw [text, List.getLast?_concat]
            decide
          have shape : inputOf (event :: next :: more) =
              event.toJson.compact ++ "\n" ++ inputOf (next :: more) := by
            simp only [inputOf, List.map_cons, String.intercalate_cons_cons, String.append_assoc]
          rw [shape]
          exact .feed unbroken bare bears (ih later)

/-! ### Turns -/

/-- The field values that the screen after an event is resolved with. -/
def valuesAfter : Event → Fields
  | .actionTriggered _ fields => fields
  | .backPressed | .flowStateChanged .. | .logoutRequested => []

theorem valuesAfter_eq (event : Event) : valuesAfter event = event.fields := by
  cases event <;> rfl

/-- An event and the engine that meets it. -/
structure Turn where
  event : Event
  engine : Engine

namespace Turn

/-- The engine once the event was handled, whatever came of it. -/
def handled (turn : Turn) : Engine := (turn.engine.handle alone turn.event).2

/-- The screen that answers the event, if it can be resolved. -/
def answer (turn : Turn) : List Screen :=
  (turn.handled.currentScreen (valuesAfter turn.event)).1.toOption.toList

/-- The messages that the event gave rise to. -/
def news (turn : Turn) : List Message := turn.engine.newsTo turn.handled

/-- The engine that the next event meets. -/
def after (turn : Turn) : Engine := (turn.handled.currentScreen (valuesAfter turn.event)).2

theorem handled_sent (turn : Turn) :
    turn.handled.sent.reverse = turn.engine.sent.reverse ++ turn.news := by
  have moves := handle_leads (runToDepth_leads 0) turn.event turn.engine (obeys_any turn.engine)
  exact sent_eq_append_newsTo moves.sent_suffix

theorem after_sent (turn : Turn) :
    turn.after.sent.reverse = turn.engine.sent.reverse ++ turn.news := by
  rw [← turn.handled_sent, after, currentScreen_sent]

end Turn

/-- The turns of events: each meets the engine that the one before it left. -/
def turns : List Event → Engine → List Turn
  | [], _ => []
  | event :: rest, engine => ⟨event, engine⟩ :: turns rest (Turn.after ⟨event, engine⟩)

theorem takeLine_of_idle (idle : Bears line none) (engine : Engine) :
    takeLine line engine = ([], engine) := by
  simp only [takeLine, bears_iff.1 idle]

theorem takeLine_of_event (bears : Bears line (some event)) (engine : Engine) :
    takeLine line engine = (Turn.answer ⟨event, engine⟩, Turn.after ⟨event, engine⟩) := by
  simp only [takeLine, bears_iff.1 bears, takeEvent, Turn.answer, Turn.after, valuesAfter_eq,
    Turn.handled]

theorem takeLines_screens (lines : List String) (engine : Engine) :
    (takeLines lines engine).1 = (turns (lines.filterMap eventOf?) engine).flatMap Turn.answer := by
  induction lines generalizing engine with
  | nil => rfl
  | cons line rest ih =>
      cases isEvent : eventOf? line with
      | none =>
          simp only [takeLines, takeLine_of_idle (bears_iff.2 isEvent),
            List.filterMap_cons_none isEvent, List.nil_append, ih]
      | some event =>
          simp only [takeLines, takeLine_of_event (bears_iff.2 isEvent),
            List.filterMap_cons_some isEvent, turns, List.flatMap_cons, ih]

theorem takeLines_messages (lines : List String) (engine : Engine) :
    (takeLines lines engine).2.sent.reverse =
      engine.sent.reverse ++ (turns (lines.filterMap eventOf?) engine).flatMap Turn.news := by
  induction lines generalizing engine with
  | nil => simp [takeLines, turns]
  | cons line rest ih =>
      cases isEvent : eventOf? line with
      | none =>
          simp only [takeLines, takeLine_of_idle (bears_iff.2 isEvent),
            List.filterMap_cons_none isEvent, ih]
      | some event =>
          simp only [takeLines, takeLine_of_event (bears_iff.2 isEvent),
            List.filterMap_cons_some isEvent, turns, List.flatMap_cons, ih, Turn.after_sent,
            List.append_assoc]

theorem opening_sent (engine : Engine) : (opening engine).2.sent = engine.sent :=
  currentScreen_sent engine []

/-- What is promised of a line, whatever engine it meets. -/
structure TakesLine (line : String) : Prop where
  /-- A line that is blank or describes no event does nothing. -/
  idle : Bears line none → ∀ engine, takeLine line engine = ([], engine)
  /-- Any other line has its event handled and the screen after it shown. -/
  taken : ∀ event, Bears line (some event) →
    ∀ engine, takeLine line engine = (Turn.answer ⟨event, engine⟩, Turn.after ⟨event, engine⟩)
  /-- The events that lines describe are those that are written on them. -/
  described : ∀ event, Event.parse? line = some event ↔
    ∃ written, Written.parse? line = some written ∧
      (written.value? Written.greatestDepth).isSome = true ∧ written.Describes event

theorem takesLine (line : String) : TakesLine line :=
  ⟨takeLine_of_idle, fun _ => takeLine_of_event, fun _ => Event.parse?_eq_some_iff⟩

/-- What is promised of the report of the events that an input supplies. -/
structure Report.Folds (report : Report) (events : List Event) (engine : Engine) : Prop where
  /-- The first screen, then the answers to the events. -/
  screens : report.screens = (engine.currentScreen []).1.toOption.toList ++
    (turns events (engine.currentScreen []).2).flatMap Turn.answer
  /-- The messages of the start, then those of the events. -/
  messages : report.messages = engine.sent.reverse ++
    (turns events (engine.currentScreen []).2).flatMap Turn.news

theorem drive_folds (input : String) (engine : Engine) :
    (drive input engine).Folds (eventsOf input) engine := by
  constructor
  · simp only [drive, opening, takeLines_screens, eventsOf]
  · simp only [drive, opening, takeLines_messages, eventsOf, currentScreen_sent]

end Headless

end Storyboard
