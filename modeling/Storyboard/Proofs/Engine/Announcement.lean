import Mathlib.Data.List.Chain
import Storyboard.Proofs.Context
import Storyboard.Proofs.Engine.Always
import Storyboard.Proofs.Mirror
/-!
# Session changes are announced

Every writer of the session announces what it changed, with one exception: restoring a saved
context announces the keys that the saved data has, so keys that it has not go away
unannounced. A renderer that listens stays in sync until that happens.

Main result: `session_announced_iff`.
-/

namespace Storyboard

namespace Engine

/-- What was sent between two moments explains how the session data changed. -/
def Snapshot.Explains (now before : Snapshot) : Prop :=
  ∃ news, now.sent = news ++ before.sent ∧
    ∀ key, Explained key (before.context.session.get? key) (now.context.session.get? key) news

/-- At this moment a saved context was restored that has no such key. -/
def Moment.RestoredWithout (moment : Moment) (key : String) : Prop :=
  moment.happening.restores = true ∧ moment.seen.context.session.get? key = none

/-- What was sent since the moment before explains how the session data changed, except for
keys that a restored context has not: these are not announced. -/
def Moment.Accounts (now before : Moment) : Prop :=
  ∃ news, now.seen.sent = news ++ before.seen.sent ∧ ∀ key,
    (now.RestoredWithout key → ∀ message ∈ news, ¬message.Announces key) ∧
      (¬now.RestoredWithout key →
        Explained key (before.seen.context.session.get? key)
          (now.seen.context.session.get? key) news)

/-- Every moment of the history accounts for the changes since the one before, a listener is
in sync with the first, and what was sent since the latest explains the changes since. -/
structure Informed (engine : Engine) : Prop where
  accounts : engine.history.IsChain Moment.Accounts
  first : ∀ first, [first] <:+ engine.history → InSync [first]
  since : ∃ last earlier, engine.history = last :: earlier ∧
    engine.snapshot.Explains last.seen

variable {allowed : Library.Step → Prop} {engine next : Engine}

namespace Snapshot

variable {before between now : Snapshot}

theorem explains_of_eq (sent : now.sent = before.sent)
    (session : now.context.session = before.context.session) : now.Explains before := by
  refine ⟨[], sent, ?_⟩
  intro key
  change before.context.session.get? key = now.context.session.get? key
  rw [session]

theorem Explains.trans (second : now.Explains between) (first : between.Explains before) :
    now.Explains before := by
  rcases second with ⟨later, sentLater, explainedLater⟩
  rcases first with ⟨earlier, sentEarlier, explainedEarlier⟩
  refine ⟨later ++ earlier, ?_, ?_⟩
  · rw [sentLater, sentEarlier, List.append_assoc]
  · intro key
    exact (explainedEarlier key).append (explainedLater key)

end Snapshot

/-! ### Writers -/

/-- The notice on a merge explains it; what else is sent does not matter. -/
theorem explained_merge (session : Session) (update : Fields) (key : String) :
    Explained key (session.get? key) ((session.merge update).2.get? key)
      (updateNotice (session.merge update).1) := by
  by_cases listed : key ∈ (session.merge update).1
  · cases keys : (session.merge update).1 with
    | nil =>
        rw [keys] at listed
        cases listed
    | cons head rest => exact Or.inl (keys ▸ listed)
  · have same := Session.get?_merge_of_not_mem listed
    cases (session.merge update).1 with
    | nil => exact same.symm
    | cons head rest => exact Or.inr same.symm

theorem setState_explains (engine : Engine) (updates : Fields) :
    ((engine.setState updates).2.sendAll (engine.setState updates).1.messages).snapshot.Explains
      engine.snapshot := by
  rw [sendAll_eq]
  refine ⟨[.sessionUpdated (engine.context.session.merge updates).1], rfl, ?_⟩
  intro key
  by_cases listed : key ∈ (engine.context.session.merge updates).1
  · exact Or.inl listed
  · exact Or.inr (Session.get?_merge_of_not_mem listed).symm

theorem push_explains (engine : Engine) (frame : Frame) (data : Option Fields) :
    Snapshot.Explains
      (snapshot (let (keys, context) := engine.context.push frame data
        let moved := { engine with context }
        moved.sendAll (updateNotice keys ++ [moved.location])))
      engine.snapshot := by
  simp only [sendAll_eq, List.reverse_append]
  refine ⟨_, rfl, ?_⟩
  intro key
  have explained := explained_merge engine.context.session (data.getD []) key
  cases keys : (engine.context.session.merge (data.getD [])).1 with
  | nil =>
      rw [keys] at explained
      change Explained key _ _ ([_] ++ (updateNotice (engine.context.session.merge _).1).reverse)
      rw [keys]
      exact explained
  | cons head rest =>
      rw [keys] at explained
      change Explained key _ _ ([_] ++ (updateNotice (engine.context.session.merge _).1).reverse)
      rw [keys]
      exact explained

/-- A message on the location, if there is one, explains nothing. -/
theorem explained_location (silent : Bool) (flow screen key : String) (value : Option Json) :
    Explained key value value (if silent then [] else [.screenChanged flow screen]).reverse := by
  cases silent with
  | true => exact rfl
  | false => exact rfl

theorem goBack_explains (engine : Engine) (steps : Nat) (clearData : Bool) :
    ((engine.goBack steps clearData).2.sendAll
      (engine.goBack steps clearData).1.messages).snapshot.Explains engine.snapshot := by
  rw [sendAll_eq]
  refine ⟨_, rfl, ?_⟩
  intro key
  change Explained key _ ((engine.context.goBack steps clearData).2.session.get? key) _
  simp only [Engine.goBack, List.reverse_append, Context.goBack_session]
  have moved := explained_location (engine.context.goBack steps clearData).1.isEmpty
    (engine.context.goBack steps clearData).2.current.flow
    (engine.context.goBack steps clearData).2.current.screen key
  cases clearData with
  | true =>
      apply Explained.append _ (moved _)
      exact Session.get?_clear engine.context.session key
  | false =>
      apply Explained.append _ (moved _)
      exact rfl

theorem dropValue_explains (engine : Engine) (key : String) :
    (engine.dropValue key).2.snapshot.Explains engine.snapshot := by
  rw [dropValue_eq]
  split
  · refine ⟨[.sessionUpdated [key]], rfl, ?_⟩
    intro other
    by_cases same : other = key
    · exact Or.inl (List.mem_singleton.2 same)
    · exact Or.inr (Session.get?_remove_of_ne same engine.context.session).symm
  · exact Snapshot.explains_of_eq rfl rfl

theorem setValue_explains (engine : Engine) (key : String) (value : Json) :
    (engine.setValue key value).snapshot.Explains engine.snapshot := by
  refine ⟨[.sessionUpdated [key]], rfl, ?_⟩
  intro other
  by_cases same : other = key
  · exact Or.inl (List.mem_singleton.2 same)
  · exact Or.inr (Session.get?_set_of_ne same engine.context.session value).symm

theorem logout_explains (engine : Engine) : engine.logout.snapshot.Explains engine.snapshot := by
  refine ⟨[engine.logout.location, .sessionCleared], rfl, ?_⟩
  intro key
  exact Session.get?_clear engine.context.session key

/-! ### Histories -/

namespace Informed

theorem of_explains (informed : engine.Informed) (history : next.history = engine.history)
    (explains : next.snapshot.Explains engine.snapshot) : next.Informed := by
  rcases informed with ⟨accounts, first, last, earlier, recorded, since⟩
  refine ⟨?_, ?_, last, earlier, ?_, explains.trans since⟩
  · rw [history]
    exact accounts
  · rw [history]
    exact first
  · rw [history]
    exact recorded

/-- A moment is added that accounts for what was since the one before. -/
theorem record (informed : engine.Informed) {moment : Moment}
    (history : next.history = moment :: engine.history)
    (accounts : ∀ last earlier, engine.history = last :: earlier →
      engine.snapshot.Explains last.seen → moment.Accounts last)
    (since : next.snapshot.Explains moment.seen) : next.Informed := by
  rcases informed with ⟨chain, first, last, earlier, recorded, explains⟩
  refine ⟨?_, ?_, moment, engine.history, history, since⟩
  · rw [history, recorded, List.isChain_cons_cons]
    rw [recorded] at chain
    exact ⟨accounts last earlier recorded explains, chain⟩
  · intro start isSuffix
    rw [history, List.suffix_cons_iff] at isSuffix
    rcases isSuffix with whole | old
    · rw [recorded] at whole
      cases whole
    · exact first start old

theorem mark (informed : engine.Informed) {happening : Happening}
    (plain : happening.restores = false) : (engine.mark happening).Informed := by
  apply informed.record rfl
  · intro last earlier recorded explains
    rcases explains with ⟨news, sent, explained⟩
    refine ⟨news, sent, ?_⟩
    intro key
    refine ⟨?_, fun _ => explained key⟩
    intro restored
    have restores : happening.restores = true := restored.1
    rw [plain] at restores
    cases restores
  · exact Snapshot.explains_of_eq rfl rfl

/-- Restoring announces the keys that there are afterwards, and no other. -/
theorem restore (informed : engine.Informed) {name : String} {backup : Context}
    (runSteps : Runner) (found : engine.backups.get? name = some backup) :
    (takeObserved runSteps (.restore name) engine).2.Informed := by
  rw [takeObserved_restore runSteps found]
  have asked : (engine.mark (.asked (.restore name))).Informed := informed.mark rfl
  apply asked.record rfl
  · intro last earlier recorded _
    cases recorded
    refine ⟨[engine.restore backup |>.location, .sessionUpdated backup.session.data.keys],
      rfl, ?_⟩
    intro key
    refine ⟨?_, ?_⟩
    · intro restored message member
      have absent : key ∉ backup.session.data.keys := Table.get?_eq_none_iff.1 restored.2
      rcases List.mem_cons.1 member with rfl | member
      · exact id
      · rw [List.mem_singleton] at member
        subst member
        exact absent
    · intro present
      apply Or.inl
      by_contra absent
      exact present ⟨rfl, Table.get?_eq_none_iff.2 absent⟩
  · exact Snapshot.explains_of_eq rfl rfl

theorem move (move : Move allowed engine next) (informed : engine.Informed) :
    next.Informed := by
  cases move with
  | marked truthful plain => exact informed.mark plain
  | restored runSteps found => exact informed.restore runSteps found
  | pushed frame data found has =>
      apply informed.of_explains _ (push_explains engine frame data)
      simp only [sendAll_eq]
  | stateSet updates =>
      apply informed.of_explains _ (setState_explains engine updates)
      rw [sendAll_eq]
      rfl
  | wentBack steps clearData =>
      apply informed.of_explains _ (goBack_explains engine steps clearData)
      rw [sendAll_eq]
      rfl
  | valueDropped key =>
      apply informed.of_explains _ (dropValue_explains engine key)
      rw [dropValue_eq]
      split
      · rfl
      · rfl
  | valueSet key value => exact informed.of_explains rfl (setValue_explains engine key value)
  | loggedOut => exact informed.of_explains rfl (logout_explains engine)
  | diagnosed level text => exact informed.of_explains rfl ⟨[_], rfl, fun _ => rfl⟩
  | navigated found has => exact informed.of_explains rfl ⟨[_], rfl, fun _ => rfl⟩
  | _ => exact informed.of_explains rfl (Snapshot.explains_of_eq rfl rfl)

end Informed

theorem informed_of_start {library : Library} {ahead : List String} {entry : String}
    (started : (start library ahead entry).1 = .ok engine) : engine.Informed := by
  rcases start_ok started with
    ⟨flow, screen, -, -, -, context, -, -, history, diagnostics, diagnostic, sent⟩
  refine ⟨?_, ?_, ⟨.started, engine.snapshot⟩, [], history, Snapshot.explains_of_eq rfl rfl⟩
  · rw [history]
    exact .singleton _
  · intro first isSuffix now latest key
    rw [history] at isSuffix
    have same : first = ⟨.started, engine.snapshot⟩ := by
      simpa [List.suffix_cons_iff] using isSuffix
    subst same
    cases latest
    have empty : engine.context.session.get? key = none := by
      rw [context]
      rfl
    have silent : ∀ message ∈ engine.sent, ¬message.Announces key := by
      intro message member
      rw [sent] at member
      rcases List.mem_cons.1 member with rfl | member
      · exact id
      · rcases diagnostic message member with ⟨level, text, rfl⟩
        exact id
    change Table.get? _ key = engine.context.session.get? key
    rw [mirror, empty, get?_listen_of_silent]
    · rfl
    · intro message member
      exact silent message (List.mem_of_mem_take member)

/-- A change of a key is announced unless a restored context has no such key. -/
theorem announced_iff {now before : Moment} {news : List Message} {key : String}
    (silent : now.RestoredWithout key → ∀ message ∈ news, ¬message.Announces key)
    (explained : ¬now.RestoredWithout key →
      Explained key (before.seen.context.session.get? key)
        (now.seen.context.session.get? key) news)
    (changed : before.seen.context.session.get? key ≠ now.seen.context.session.get? key) :
    (∃ message ∈ news, message.Announces key) ↔ ¬now.RestoredWithout key := by
  constructor
  · intro announced restored
    rcases announced with ⟨message, member, announces⟩
    exact silent restored message member announces
  · intro kept
    exact (explained kept).announced changed

/-- A listener stays in sync unless a restored context has not a key that there was. -/
theorem Moment.Accounts.inSync_iff {now before : Moment} {earlier : List Moment}
    (accounts : now.Accounts before) (inSync : InSync (before :: earlier)) :
    InSync (now :: before :: earlier) ↔
      ∀ key, before.seen.context.session.get? key ≠ none → ¬now.RestoredWithout key := by
  rcases accounts with ⟨news, sent, accounts⟩
  have held : ∀ key, (mirror (before :: earlier)).get? key =
      before.seen.context.session.get? key := inSync before rfl
  have hears : mirror (now :: before :: earlier) =
      news.foldr (listen now.seen.context.session.data) (mirror (before :: earlier)) := by
    rw [mirror, arrived_of_sent earlier sent]
  constructor
  · intro synced key present restored
    apply present
    calc
      before.seen.context.session.get? key
        = (mirror (before :: earlier)).get? key := (held key).symm
      _ = (mirror (now :: before :: earlier)).get? key := by
          rw [hears, get?_listen_of_silent ((accounts key).1 restored)]
      _ = now.seen.context.session.get? key := synced now rfl key
      _ = none := restored.2
  · intro kept latest isLatest key
    cases isLatest
    rw [hears]
    by_cases restored : now.RestoredWithout key
    · rw [get?_listen_of_silent ((accounts key).1 restored), held key, restored.2]
      by_contra present
      exact kept key present restored
    · exact get?_listen_of_explained (held key) ((accounts key).2 restored)

/-- What is promised of a history. What is sent between two moments announces each key whose
value changed, unless the later one restored a context that has no such key; then nothing
announces it. A listener is in sync at first, and falls out of sync exactly when a key goes
away like that. -/
structure Announced (history : List Moment) : Prop where
  changes : ∀ now before earlier, now :: before :: earlier <:+ history →
    ∃ news, now.seen.sent = news ++ before.seen.sent ∧
      ∀ key, before.seen.context.session.get? key ≠ now.seen.context.session.get? key →
        ((∃ message ∈ news, message.Announces key) ↔ ¬now.RestoredWithout key)
  first : ∀ first, [first] <:+ history → InSync [first]
  sync : ∀ now before earlier, now :: before :: earlier <:+ history →
    InSync (before :: earlier) →
      (InSync (now :: before :: earlier) ↔
        ∀ key, before.seen.context.session.get? key ≠ none → ¬now.RestoredWithout key)

/-- After a start, every history announces its session changes as promised. -/
theorem session_announced_iff {library : Library} {ahead : List String} {entry : String}
    (started : (start library ahead entry).1 = .ok engine) (registry : Registry Step)
    (replies : Table (List (Reply Step))) (steps : List Step) (depth : Nat) :
    Announced (runToDepth depth steps { engine with registry, replies }).2.history := by
  have informed := runToDepth_keeps registry replies steps depth Informed.move
    (obeys_any _) (fun step _ => step.obeys_any)
    (informed_of_start started)
  have accounts : ∀ now before earlier, now :: before :: earlier <:+ _ →
      Moment.Accounts now before := fun now before earlier isSuffix =>
    (List.isChain_cons_cons.1 (informed.accounts.suffix isSuffix)).1
  refine ⟨?_, informed.first, ?_⟩
  · intro now before earlier isSuffix
    rcases accounts now before earlier isSuffix with ⟨news, sent, tells⟩
    refine ⟨news, sent, ?_⟩
    intro key changed
    exact announced_iff (tells key).1 (tells key).2 changed
  · intro now before earlier isSuffix
    exact (accounts now before earlier isSuffix).inSync_iff

/-- The session is saved before a draft is written, and restored after. -/
def sampleCancel : List Step :=
  [.set "user" (.str "ada"), .backup "before", .set "draft" (.str "text"), .restore "before"]

theorem session_announced_iff_of_cancel :
    ∃ engine, (start sampleLibrary ["shop"] "home").1 = .ok engine ∧
      Announced (runToDepth 1 sampleCancel
        { engine with registry := [], replies := sampleReplies }).2.history := by
  rcases sampleLibrary_starts with ⟨engine, started⟩
  exact ⟨engine, started, session_announced_iff started [] sampleReplies sampleCancel 1⟩

/-- Restoring drops the draft and announces only the user. -/
theorem draft_dropped_unannounced :
    ∃ engine, (start sampleLibrary ["shop"] "home").1 = .ok engine ∧
      ∃ now before earlier,
        (runToDepth 1 sampleCancel engine).2.history = now :: before :: earlier ∧
        before.seen.context.session.get? "draft" = some (.str "text") ∧
        now.seen.context.session.get? "draft" = none ∧
        ∃ news, now.seen.sent = news ++ before.seen.sent ∧
          ∀ message ∈ news, ¬message.Announces "draft" := by
  rcases sampleLibrary_starts with ⟨engine, started⟩
  rcases start_ok started with ⟨flow, screen, -, -, -, context, -, backups, -⟩
  refine ⟨engine, started, ?_⟩
  clear started
  rcases engine with ⟨root, _, library, registry, replies, sent, observed, listening, phases,
    calls, _, history⟩
  simp only at context backups
  subst context backups
  refine ⟨_, _, _, rfl, rfl, rfl,
    [.screenChanged "home" screen, .sessionUpdated ["user"]], rfl, ?_⟩
  intro message member
  rcases List.mem_cons.1 member with rfl | member
  · exact id
  · rw [List.mem_singleton] at member
    subst member
    change "draft" ∉ ["user"]
    decide

end Engine

end Storyboard
