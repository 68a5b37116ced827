import Storyboard.Json.Record
import Storyboard.Session
/-!
# Stored sessions

A session is stored with its bookkeeping: when it was created, when it was last written,
and how often.
-/

namespace Storyboard

namespace Session

/-- The bookkeeping of a stored session; times count milliseconds. -/
structure Bookkeeping where
  createdAt : Nat
  lastModifiedAt : Nat
  writes : Nat
deriving DecidableEq, Repr

/-- A session as it is stored. -/
structure Stored where
  data : Fields
  bookkeeping : Bookkeeping
deriving DecidableEq

namespace Bookkeeping

/-- The bookkeeping as an object. -/
def toJson (bookkeeping : Bookkeeping) : Json :=
  .obj [("created_at", .int bookkeeping.createdAt),
    ("last_modified_at", .int bookkeeping.lastModifiedAt),
    ("write_count", .int bookkeeping.writes)]

/-- The bookkeeping as written. -/
def ofWritten? (written : Written) : Option Bookkeeping := do
  match ← written.record? ["created_at", "last_modified_at", "write_count"] with
  | [some created, some modified, some writes] =>
    return ⟨← created.natural?, ← modified.natural?, ← writes.natural?⟩
  | _ => none

end Bookkeeping

namespace Stored

/-- A stored session as an object. -/
def toJson (stored : Stored) : Json :=
  .obj [("data", .obj stored.data), ("metadata", stored.bookkeeping.toJson)]

/-- A stored session as written. -/
def ofWritten? (written : Written) : Option Stored := do
  match ← written.record? ["data", "metadata"] with
  | [some data, some bookkeeping] =>
    return ⟨← data.table?, ← Bookkeeping.ofWritten? bookkeeping⟩
  | _ => none

/-- The session that was stored. -/
def session (stored : Stored) : Session := ⟨stored.data, stored.bookkeeping.writes⟩

end Stored

end Session

end Storyboard
