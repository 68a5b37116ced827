import Storyboard.Engine.Basic
/-!
# A renderer that listens

A renderer can hold a copy of the session data by listening: on hearing of written keys it
reads these again, on hearing that the session was emptied it drops everything. The copy is
right as long as every change of a value is explained by the messages that come with it.
-/

namespace Storyboard

/-- Whether a message tells that the value of a key may have changed. -/
def Message.Announces (key : String) : Message → Prop
  | .sessionUpdated keys => key ∈ keys
  | .sessionCleared => True
  | _ => False

/-- Messages, the latest first, explain how the value of a key became what it is: the last
one on the key tells that it was written, or that everything was dropped and it is gone. -/
def Explained (key : String) (before after : Option Json) : List Message → Prop
  | [] => before = after
  | .sessionUpdated keys :: earlier => key ∈ keys ∨ Explained key before after earlier
  | .sessionCleared :: _ => after = none
  | _ :: earlier => Explained key before after earlier

variable {key : String} {before between after : Option Json} {news earlier : List Message}

/-- What is explained step by step is explained. -/
theorem Explained.append (first : Explained key before between earlier)
    (second : Explained key between after news) :
    Explained key before after (news ++ earlier) := by
  induction news with
  | nil =>
      have same : between = after := second
      rw [← same]
      exact first
  | cons message rest ih =>
      cases message with
      | sessionUpdated keys =>
          rcases second with listed | explained
          · exact Or.inl listed
          · exact Or.inr (ih explained)
      | sessionCleared => exact second
      | screenChanged flow screen => exact ih second
      | diagnostic level text => exact ih second

/-- A change that is explained is announced. -/
theorem Explained.announced (explained : Explained key before after news)
    (changed : before ≠ after) : ∃ message ∈ news, message.Announces key := by
  induction news with
  | nil => exact (changed explained).elim
  | cons message rest ih =>
      have later : (∃ message ∈ rest, message.Announces key) →
          ∃ other ∈ message :: rest, other.Announces key := by
        intro ⟨other, member, announces⟩
        exact ⟨other, List.mem_cons_of_mem _ member, announces⟩
      cases message with
      | sessionUpdated keys =>
          rcases explained with listed | explained
          · exact ⟨_, List.mem_cons_self, listed⟩
          · exact later (ih explained)
      | sessionCleared => exact ⟨_, List.mem_cons_self, trivial⟩
      | screenChanged flow screen => exact later (ih explained)
      | diagnostic level text => exact later (ih explained)

/-- Reads a key again. -/
def reread (source held : Fields) (key : String) : Fields :=
  match source.get? key with
  | some value => held.put key value
  | none => held.erase key

/-- What the renderer holds once it heard a message, `source` being the session data. -/
def listen (source : Fields) (message : Message) (held : Fields) : Fields :=
  match message with
  | .sessionUpdated keys => keys.foldl (reread source) held
  | .sessionCleared => []
  | _ => held

section Listening

variable {source held : Fields}

theorem get?_reread (source held : Fields) (read key : String) :
    (reread source held read).get? key =
      if key = read then source.get? key else held.get? key := by
  unfold reread
  by_cases same : key = read
  · subst same
    cases found : source.get? key with
    | some value => simp
    | none => simp
  · rw [if_neg same]
    cases source.get? read with
    | some value => exact Table.get?_put_of_ne same held value
    | none => exact Table.get?_erase_of_ne same held

theorem get?_foldl_reread (source held : Fields) (keys : List String) (key : String) :
    (keys.foldl (reread source) held).get? key =
      if key ∈ keys then source.get? key else held.get? key := by
  induction keys generalizing held with
  | nil => simp
  | cons read rest ih =>
      rw [List.foldl_cons, ih, get?_reread]
      by_cases later : key ∈ rest
      · simp [later]
      · by_cases same : key = read
        · simp [same]
        · simp [later, same]

/-- A copy that was right stays right under messages that explain the change. -/
theorem get?_listen_of_explained (right : held.get? key = before)
    (explained : Explained key before (source.get? key) news) :
    (news.foldr (listen source) held).get? key = source.get? key := by
  induction news with
  | nil => exact right.trans explained
  | cons message rest ih =>
      rw [List.foldr_cons]
      cases message with
      | sessionUpdated keys =>
          simp only [listen, get?_foldl_reread]
          split
          · rfl
          · rename_i unlisted
            rcases explained with listed | explained
            · exact (unlisted listed).elim
            · exact ih explained
      | sessionCleared => exact explained.symm
      | screenChanged flow screen => exact ih explained
      | diagnostic level text => exact ih explained

/-- Messages that do not announce a key leave the copy of its value alone. -/
theorem get?_listen_of_silent (silent : ∀ message ∈ news, ¬message.Announces key) :
    (news.foldr (listen source) held).get? key = held.get? key := by
  induction news with
  | nil => rfl
  | cons message rest ih =>
      have others := ih fun other member => silent other (List.mem_cons_of_mem _ member)
      have quiet := silent message List.mem_cons_self
      rw [List.foldr_cons]
      cases message with
      | sessionUpdated keys =>
          have unlisted : key ∉ keys := quiet
          simp only [listen, get?_foldl_reread]
          rw [if_neg unlisted]
          exact others
      | sessionCleared => exact (quiet trivial).elim
      | screenChanged flow screen => exact others
      | diagnostic level text => exact others

end Listening

namespace Engine

/-- The messages that arrived at a moment since the latest of the earlier ones. -/
def arrived (now : Moment) (earlier : List Moment) : List Message :=
  let heard := (earlier.head?.map (·.seen.sent.length)).getD 0
  now.seen.sent.take (now.seen.sent.length - heard)

/-- What the renderer holds at the latest of the moments of a history. At each moment it goes
through the messages that arrived, with the session data of that moment. -/
def mirror : List Moment → Fields
  | [] => []
  | now :: earlier =>
    (arrived now earlier).foldr (listen now.seen.context.session.data) (mirror earlier)

/-- The renderer holds the session data of the latest moment. -/
def InSync (moments : List Moment) : Prop :=
  ∀ now ∈ moments.head?, ∀ key, (mirror moments).get? key = now.seen.context.session.get? key

theorem arrived_of_sent {now before : Moment} {news : List Message} (earlier : List Moment)
    (sent : now.seen.sent = news ++ before.seen.sent) :
    arrived now (before :: earlier) = news := by
  simp [arrived, sent]

end Engine

end Storyboard
