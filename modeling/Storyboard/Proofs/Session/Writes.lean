import Mathlib.Data.List.Sort
import Storyboard.Proofs.Context
import Storyboard.Proofs.Flow.Document
import Storyboard.Session.Record
/-!
# Writes to a session

A session is a map with a count. To the map every write does what it would do to any other
map from texts to values. The count goes up by one with each write that has something to
write, be it one key or many, and stays where it is once it can go no higher. A write that
has nothing to write leaves the data as they are, so data that changed show in the count.

Main result: `run_follows_plain`.
-/

universe u

namespace Storyboard

namespace Table.Ordered

variable {α : Type u} {table other : Table α}

theorem nodup_keys (ordered : table.Ordered) : table.keys.Nodup :=
  List.pairwise_map.2 (ordered.imp Std.ne_of_lt)

theorem mem_iff (ordered : table.Ordered) {key : String} {value : α} :
    (key, value) ∈ table ↔ table.get? key = some value :=
  ⟨get?_of_mem ordered.nodup_keys, mem_of_get?⟩

/-- Of two ordered tables with the same entries there is only one. -/
theorem eq_of_mem_iff (ordered : table.Ordered) (others : other.Ordered)
    (same : ∀ entry, entry ∈ table ↔ entry ∈ other) : table = other := by
  have : Std.Irrefl fun first second : String × α => first.1 < second.1 :=
    ⟨fun entry => String.lt_irrefl entry.1⟩
  have : Std.Antisymm fun first second : String × α => first.1 < second.1 :=
    ⟨fun _ _ before after => absurd (String.lt_trans before after) (String.lt_irrefl _)⟩
  exact List.Pairwise.eq_of_mem_iff ordered others same

end Table.Ordered

namespace Session

/-- A map without a count. -/
abbrev Plain := Std.TreeMap String Json

/-- A write to session data. -/
inductive Write where
  | set (key : String) (value : Json)
  | merge (update : Plain)
  | remove (key : String)
  | clear

/-- What a write gives back. -/
inductive Answer where
  | done
  | keys (keys : List String)
  | value (value : Option Json)
deriving DecidableEq

/-- What a write gives back, and the session after it. -/
def apply (session : Session) : Write → Answer × Session
  | .set key value => (.done, session.set key value)
  | .merge update => (session.merge update.toList).map .keys id
  | .remove key => (session.remove key).map .value id
  | .clear => (.done, session.clear)

/-- What writes made in order give back, and the session after them. -/
def run (session : Session) : List Write → List Answer × Session
  | [] => ([], session)
  | write :: rest =>
    let (answer, next) := session.apply write
    let (answers, last) := next.run rest
    (answer :: answers, last)

namespace Plain

/-- A map after a write. What is stored under a key is replaced as a whole. -/
def write (map : Plain) : Write → Plain
  | .set key value => map.insert key value
  | .merge update => update.foldl .insert map
  | .remove key => map.erase key
  | .clear => ∅

/-- What a write gives back. -/
def answer (map : Plain) : Write → Answer
  | .set _ _ | .clear => .done
  | .merge update => .keys update.keys
  | .remove key => .value map[key]?

/-- Whether a write has something to write. -/
def isEffective (map : Plain) : Write → Bool
  | .set _ _ => true
  | .merge update => !update.isEmpty
  | .remove key => map.contains key
  | .clear => !map.isEmpty

/-- A map after writes made in order. -/
def writeAll (map : Plain) (writes : List Write) : Plain := writes.foldl write map

/-- What writes made in order give back. -/
def answers (map : Plain) : List Write → List Answer
  | [] => []
  | write :: rest => map.answer write :: answers (map.write write) rest

/-- How many of the writes made in order have something to write. -/
def effective (map : Plain) : List Write → Nat
  | [] => 0
  | write :: rest =>
    (if map.isEffective write then 1 else 0) + effective (map.write write) rest

end Plain

/-! ### Tables as maps -/

/-- A table lists what a map holds. -/
structure Lists (map : Plain) (data : Fields) : Prop where
  ordered : data.Ordered
  found : ∀ key, data.get? key = map[key]?

namespace Lists

variable {map : Plain} {data : Fields}

/-- A map has one listing, by ascending key. -/
theorem eq_toList (lists : Lists map data) : data = map.toList := by
  have ascending : Table.Ordered map.toList :=
    map.ordered_keys_toList.imp compareOfLessAndEq_eq_lt.1
  refine lists.ordered.eq_of_mem_iff ascending fun ⟨key, value⟩ => ?_
  rw [lists.ordered.mem_iff, lists.found, Std.TreeMap.mem_toList_iff_getElem?_eq_some]

theorem isEmpty_eq (lists : Lists map data) : data.isEmpty = map.isEmpty := by
  rw [lists.eq_toList, Std.TreeMap.isEmpty_toList]

theorem put (lists : Lists map data) (key : String) (value : Json) :
    Lists (map.insert key value) (data.put key value) where
  ordered := lists.ordered.put key value
  found other := by
    by_cases same : key = other
    · simp [same]
    · simp [Std.TreeMap.getElem?_insert, Table.get?_put_of_ne (Ne.symm same), same, lists.found]

theorem putAll (lists : Lists map data) (entries : List (String × Json)) :
    Lists (entries.foldl (fun map entry => map.insert entry.1 entry.2) map)
      (data.putAll entries) := by
  induction entries generalizing map data with
  | nil => exact lists
  | cons entry rest ih => exact ih (lists.put entry.1 entry.2)

theorem erase (lists : Lists map data) (key : String) :
    Lists (map.erase key) (data.erase key) where
  ordered := lists.ordered.erase key
  found other := by
    by_cases same : key = other
    · simp [same]
    · simp [Std.TreeMap.getElem?_erase, Table.get?_erase_of_ne (Ne.symm same), same, lists.found]

theorem nil : Lists ∅ [] where
  ordered := Table.Ordered.nil
  found _ := by simp

theorem ofList (ordered : data.Ordered) : Lists (.ofList data) data where
  ordered := ordered
  found key := by
    have apart : data.Pairwise fun first second => ¬compare first.1 second.1 = .eq :=
      ordered.imp fun before same => Std.ne_of_lt before (Std.compare_eq_iff_eq.1 same)
    cases found : data.get? key with
    | none =>
        refine (Std.TreeMap.getElem?_ofList_of_contains_eq_false ?_).symm
        simpa [Table.keys] using Table.get?_eq_none_iff.1 found
    | some value =>
        have member := Table.mem_of_get? found
        exact (Std.TreeMap.getElem?_ofList_of_mem (by simp) apart member).symm

end Lists

/-! ### Runs -/

section Runs

variable {session : Session} {map : Plain}

theorem fst_merge (session : Session) (update : Fields) :
    (session.merge update).1 = update.keys := by
  cases update with
  | nil => rfl
  | cons entry rest => rfl

theorem data_merge (session : Session) (update : Fields) :
    (session.merge update).2.data = session.data.putAll update := by
  cases update with
  | nil => rfl
  | cons entry rest => rfl

theorem fst_remove (session : Session) (key : String) :
    (session.remove key).1 = session.get? key := by
  unfold remove
  cases session.get? key <;> rfl

theorem data_remove (session : Session) (key : String) :
    (session.remove key).2.data = session.data.erase key := by
  unfold remove
  cases found : session.get? key with
  | some value => rfl
  | none =>
      refine (List.filter_eq_self.2 fun entry member => ?_).symm
      have absent := Table.get?_eq_none_iff.1 found
      exact bne_iff_ne.2 fun same => absent (same ▸ List.mem_map_of_mem member)

/-- What a write gives back, and what it does to the data and to the count. -/
structure Applied (session : Session) (map : Plain) (write : Write) : Prop where
  answer : (session.apply write).1 = map.answer write
  lists : Lists (map.write write) (session.apply write).2.data
  counts : map.isEffective write = true →
    (session.apply write).2.writes = min (session.writes + 1) greatestCount
  /-- A write that has nothing to write does nothing. -/
  untouched : map.isEffective write = false → (session.apply write).2 = session

theorem applied_merge (lists : Lists map session.data) (update : Plain) :
    Applied session map (.merge update) where
  answer := by
    simp only [apply, Prod.map_fst, fst_merge, Plain.answer]
    exact congrArg Answer.keys Std.TreeMap.map_fst_toList_eq_keys
  lists := by
    simp only [apply, Prod.map_snd, id_eq, data_merge, Plain.write,
      Std.TreeMap.foldl_eq_foldl_toList]
    exact lists.putAll update.toList
  counts effective := by
    have some : update.toList.isEmpty = false := by simpa [Plain.isEffective] using effective
    simp [apply, merge, some, written]
  untouched idle := by
    have none : update.toList.isEmpty = true := by simpa [Plain.isEffective] using idle
    simp [apply, merge, none]

theorem applied_remove (lists : Lists map session.data) (key : String) :
    Applied session map (.remove key) := by
  have effective : map.isEffective (.remove key) = (session.get? key).isSome := by
    rw [Plain.isEffective, Std.TreeMap.contains_eq_isSome_getElem?, ← lists.found, get?]
  refine ⟨?_, ?_, ?_, ?_⟩
  · simp only [apply, Prod.map_fst, fst_remove, Plain.answer, get?, lists.found]
  · simp only [apply, Prod.map_snd, id_eq, data_remove, Plain.write]
    exact lists.erase key
  · intro present
    rcases Option.isSome_iff_exists.1 (effective ▸ present) with ⟨value, found⟩
    simp [apply, remove, found, written]
  · intro absent
    have found : session.get? key = none := by simpa [effective] using absent
    simp [apply, remove, found]

theorem applied_clear (lists : Lists map session.data) : Applied session map .clear where
  answer := rfl
  lists := by
    rw [apply, data_clear]
    exact Lists.nil
  counts effective := by
    have some : session.data.isEmpty = false := by
      simpa [Plain.isEffective, lists.isEmpty_eq] using effective
    simp [apply, clear, some, written]
  untouched idle := by
    have none : session.data.isEmpty = true := by
      simpa [Plain.isEffective, lists.isEmpty_eq] using idle
    simp [apply, clear, none]

theorem applied (lists : Lists map session.data) (write : Write) :
    Applied session map write := by
  cases write with
  | set key value => exact ⟨rfl, lists.put key value, fun _ => rfl, nofun⟩
  | merge update => exact applied_merge lists update
  | remove key => exact applied_remove lists key
  | clear => exact applied_clear lists

theorem fst_run (lists : Lists map session.data) (writes : List Write) :
    (session.run writes).1 = map.answers writes := by
  induction writes generalizing session map with
  | nil => rfl
  | cons write rest ih =>
      have step := applied lists write
      exact congrArg₂ _ step.answer (ih step.lists)

theorem lists_run (lists : Lists map session.data) (writes : List Write) :
    Lists (map.writeAll writes) (session.run writes).2.data := by
  induction writes generalizing session map with
  | nil => exact lists
  | cons write rest ih => exact ih (applied lists write).lists

theorem writes_run (lists : Lists map session.data) (within : session.writes ≤ greatestCount)
    (writes : List Write) :
    (session.run writes).2.writes = min (session.writes + map.effective writes) greatestCount := by
  induction writes generalizing session map with
  | nil => exact (min_eq_left within).symm
  | cons write rest ih =>
      have step := applied lists write
      change ((session.apply write).2.run rest).2.writes = _
      cases effective : map.isEffective write with
      | true =>
          have counts := step.counts effective
          rw [ih step.lists (counts ▸ min_le_right _ _), counts, Plain.effective, if_pos effective]
          omega
      | false =>
          have stays := step.untouched effective
          rw [ih step.lists (stays.symm ▸ within), stays, Plain.effective, effective]
          simp

/-- Writes none of which has something to write leave the session as it is. -/
theorem run_of_effective_eq_zero (lists : Lists map session.data) {writes : List Write}
    (none : map.effective writes = 0) : (session.run writes).2 = session := by
  induction writes generalizing session map with
  | nil => rfl
  | cons write rest ih =>
      have step := applied lists write
      rw [Plain.effective, Nat.add_eq_zero_iff] at none
      have idle : map.isEffective write = false := by simpa using none.1
      change ((session.apply write).2.run rest).2 = session
      rw [ih step.lists none.2, step.untouched idle]

end Runs

/-- Where a session comes from: it is new, or it was stored. -/
inductive Starts : Session → Prop where
  | new : Starts {}
  | stored {written : Written} {stored : Stored}
    (read : Stored.ofWritten? written = some stored)
    (within : stored.bookkeeping.writes ≤ greatestCount) : Starts stored.session

theorem ordered_of_table? {written : Written} {fields : Fields}
    (read : written.table? = some fields) : fields.Ordered := by
  unfold Written.table? at read
  split at read
  · rename_i value
    cases read
    exact Written.sorted_of_value? value fields (.self _)
  · cases read

theorem ordered_of_ofWritten? {written : Written} {stored : Stored}
    (read : Stored.ofWritten? written = some stored) : stored.data.Ordered := by
  rcases Option.bind_eq_some_iff.1 read with ⟨fields, -, readFields⟩
  split at readFields
  · rcases Option.bind_eq_some_iff.1 readFields with ⟨data, readData, readOther⟩
    rcases Option.bind_eq_some_iff.1 readOther with ⟨bookkeeping, -, made⟩
    cases made
    exact ordered_of_table? readData
  · cases readFields

theorem Starts.ordered {session : Session} (starts : Starts session) : session.data.Ordered := by
  cases starts with
  | new => exact Table.Ordered.nil
  | stored read => exact ordered_of_ofWritten? read

theorem Starts.within {session : Session} (starts : Starts session) :
    session.writes ≤ greatestCount := by
  cases starts with
  | new => exact Nat.zero_le _
  | stored _ within => exact within

/-- The data after entries were set one by one. -/
theorem data_run_set (session : Session) (entries : Fields) :
    (session.run (entries.map fun entry => .set entry.1 entry.2)).2.data =
      session.data.putAll entries := by
  induction entries generalizing session with
  | nil => rfl
  | cons entry rest ih => exact ih (session.set entry.1 entry.2)

/-- What is promised of a session after writes to it. -/
structure Follows (session : Session) (writes : List Write) (answers : List Answer)
    (after : Session) : Prop where
  data : after.data = (Plain.writeAll (.ofList session.data) writes).toList
  answers : answers = Plain.answers (.ofList session.data) writes
  count : after.writes =
    min (session.writes + Plain.effective (.ofList session.data) writes) greatestCount
  /-- A merge does to the data what setting its keys one by one does. -/
  shallow : ∀ update : Plain, (after.merge update.toList).2.data =
    (after.run (update.toList.map fun entry => .set entry.1 entry.2)).2.data
  /-- As long as the count can go up, it does so before the data change. -/
  unmoved : ∀ further, (after.run further).2.writes = after.writes →
    after.writes < greatestCount → (after.run further).2.data = after.data

/-- Writes to a session do what they do to a map, and count if they have something to write. -/
theorem run_follows_plain {session : Session} (starts : Starts session) (writes : List Write) :
    Follows session writes (session.run writes).1 (session.run writes).2 := by
  have lists := Lists.ofList starts.ordered
  have after := lists_run lists writes
  have count := writes_run lists starts.within writes
  refine ⟨after.eq_toList, fst_run lists writes, count, ?_, ?_⟩
  · intro update
    rw [data_merge, data_run_set]
  · intro further same room
    have counts := writes_run after (count ▸ min_le_right _ _) further
    rw [run_of_effective_eq_zero after (by omega)]

/-- A session that has room for one more write in its count. -/
def sampleStored : Stored where
  data := [("lang", .str "en"), ("prefs", .obj [("theme", .str "dark"), ("zoom", .int 2)])]
  bookkeeping := ⟨0, 0, greatestCount - 1⟩

def sampleWrites : List Write :=
  [.remove "user", .merge ∅, .merge (.ofList [("prefs", Json.obj [("theme", .str "light")])]),
    .remove "lang", .clear, .clear, .set "lang" .null]

theorem run_follows_plain_of_stored :
    Stored.ofWritten? (.ofJson sampleStored.toJson) = some sampleStored ∧
      sampleStored.session.writes ≤ greatestCount ∧
      Follows sampleStored.session sampleWrites
        [.value none, .keys [], .keys ["prefs"], .value (some (.str "en")), .done, .done, .done]
        ⟨[("lang", .null)], greatestCount⟩ := by
  have read : Stored.ofWritten? (.ofJson sampleStored.toJson) = some sampleStored := by
    decide +kernel
  have within : sampleStored.session.writes ≤ greatestCount := by decide +kernel
  have follows := run_follows_plain (.stored read within) sampleWrites
  have runs : sampleStored.session.run sampleWrites = ([.value none, .keys [], .keys ["prefs"],
      .value (some (.str "en")), .done, .done, .done], ⟨[("lang", .null)], greatestCount⟩) := by
    decide +kernel
  rw [runs] at follows
  exact ⟨read, within, follows⟩

end Session

end Storyboard
