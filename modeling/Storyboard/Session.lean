import Storyboard.Json.Basic
/-!
# Session data

Values that outlive screens and flows: who is logged in, what was chosen. A merge is
shallow: each key of the update replaces what was stored under it. The store counts the
writes that had something to write; the count stays at its greatest value once there.
-/

namespace Storyboard

/-- Session data and the number of writes to it. -/
structure Session where
  data : Fields := []
  writes : Nat := 0
deriving DecidableEq

namespace Session

/-- The greatest count of writes. -/
def greatestCount : Nat := Nat.pow 2 64 - 1

/-- The data after one more write. -/
def written (session : Session) (data : Fields) : Session :=
  ⟨data, min (session.writes + 1) greatestCount⟩

/-- The value of a key. -/
def get? (session : Session) (key : String) : Option Json := session.data.get? key

/-- Stores a value. -/
def set (session : Session) (key : String) (value : Json) : Session :=
  session.written (session.data.put key value)

/-- Stores every entry of an update; also gives its keys. -/
def merge (session : Session) (update : Fields) : List String × Session :=
  if update.isEmpty then ([], session)
  else (update.keys, session.written (session.data.putAll update))

/-- Drops a key; also gives what was stored under it. -/
def remove (session : Session) (key : String) : Option Json × Session :=
  match session.get? key with
  | some value => (some value, session.written (session.data.erase key))
  | none => (none, session)

/-- Drops every key. -/
def clear (session : Session) : Session :=
  if session.data.isEmpty then session else session.written []

end Session

end Storyboard
