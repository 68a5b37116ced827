/-!
# Ordered tables

A table maps text keys to values and lists its entries by ascending key. Keys are
compared by code point. Every writer below keeps a table ordered, so the order in
which a program lists or prints keys is a property of the table and not of the
history that built it.

Main statements: what `put` and `erase` do to a look-up (`get?_put_self`,
`get?_put_of_ne`, `get?_erase_self`, `get?_erase_of_ne`), and that both keep the
order (`Ordered.put`, `Ordered.erase`).
-/

universe u

namespace Storyboard

/-- Values by text key. -/
abbrev Table (α : Type u) := List (String × α)

namespace Table

variable {α : Type u}

/-- The value stored under a key. -/
def get? (table : Table α) (key : String) : Option α :=
  match table with
  | [] => none
  | (k, value) :: rest => if k = key then some value else get? rest key

/-- Whether a key is present. -/
def contains (table : Table α) (key : String) : Bool :=
  (table.get? key).isSome

/-- Stores a value under a key, replacing what was there. -/
def put (table : Table α) (key : String) (value : α) : Table α :=
  match table with
  | [] => [(key, value)]
  | (k, old) :: rest =>
    if key < k then (key, value) :: (k, old) :: rest
    else if k = key then (key, value) :: rest
    else (k, old) :: put rest key value

/-- Drops a key. -/
def erase (table : Table α) (key : String) : Table α :=
  table.filter fun entry => entry.1 != key

/-- The keys, in order. -/
def keys (table : Table α) : List String :=
  table.map (·.1)

/-- Stores every entry of a list, a later entry winning over an earlier one. -/
def putAll (table : Table α) (entries : List (String × α)) : Table α :=
  entries.foldl (fun table entry => table.put entry.1 entry.2) table

/-- The table of a list of entries, the last entry of a key winning. -/
def ofList (entries : List (String × α)) : Table α :=
  putAll [] entries

/-- The entries whose key passes a test. -/
def restrict (table : Table α) (keep : String → Bool) : Table α :=
  table.filter fun entry => keep entry.1

/-- The keys ascend strictly. -/
def Ordered (table : Table α) : Prop :=
  table.Pairwise fun a b => a.1 < b.1

@[simp] theorem get?_nil (key : String) : get? ([] : Table α) key = none := rfl

theorem get?_cons (k : String) (value : α) (rest : Table α) (key : String) :
    get? ((k, value) :: rest) key = if k = key then some value else rest.get? key := rfl

@[simp] theorem get?_put_self (table : Table α) (key : String) (value : α) :
    (table.put key value).get? key = some value := by
  induction table with
  | nil => simp [put, get?]
  | cons entry rest ih =>
    obtain ⟨k, old⟩ := entry
    by_cases before : key < k
    · simp [put, before, get?]
    · by_cases same : k = key
      · simp [put, same, get?]
      · simp [put, before, same, get?, ih]

theorem get?_put_of_ne {key other : String} (distinct : other ≠ key) (table : Table α)
    (value : α) : (table.put key value).get? other = table.get? other := by
  have distinct' : ¬key = other := fun h => distinct h.symm
  induction table with
  | nil => simp [put, get?, distinct']
  | cons entry rest ih =>
    obtain ⟨k, old⟩ := entry
    by_cases before : key < k
    · simp [put, before, get?, distinct']
    · by_cases same : k = key
      · simp [put, same, get?, distinct']
      · simp [put, before, same, get?, ih]

@[simp] theorem get?_erase_self (table : Table α) (key : String) :
    (table.erase key).get? key = none := by
  induction table with
  | nil => rfl
  | cons entry rest ih =>
    obtain ⟨k, old⟩ := entry
    by_cases same : k = key
    · simpa [erase, same] using ih
    · have step : erase ((k, old) :: rest) key = (k, old) :: erase rest key := by
        simp [erase, same]
      rw [step, get?_cons, if_neg same, ih]

theorem get?_erase_of_ne {key other : String} (distinct : other ≠ key) (table : Table α) :
    (table.erase key).get? other = table.get? other := by
  induction table with
  | nil => rfl
  | cons entry rest ih =>
    obtain ⟨k, old⟩ := entry
    by_cases same : k = key
    · have step : erase ((k, old) :: rest) key = erase rest key := by simp [erase, same]
      have apart : ¬k = other := fun h => distinct (h.symm.trans same)
      rw [step, get?_cons, if_neg apart, ih]
    · have step : erase ((k, old) :: rest) key = (k, old) :: erase rest key := by
        simp [erase, same]
      rw [step, get?_cons, get?_cons, ih]

theorem mem_put {table : Table α} {key : String} {value : α} {entry : String × α}
    (found : entry ∈ table.put key value) : entry = (key, value) ∨ entry ∈ table := by
  induction table with
  | nil => simpa [put] using found
  | cons head rest ih =>
    obtain ⟨k, old⟩ := head
    by_cases before : key < k
    · simpa [put, before] using found
    · by_cases same : k = key
      · rw [put, if_neg before, if_pos same] at found
        rcases List.mem_cons.1 found with h | h
        · exact Or.inl h
        · exact Or.inr (List.mem_cons_of_mem _ h)
      · rw [put, if_neg before, if_neg same] at found
        rcases List.mem_cons.1 found with h | h
        · exact Or.inr (h ▸ List.mem_cons_self)
        · rcases ih h with h | h
          · exact Or.inl h
          · exact Or.inr (List.mem_cons_of_mem _ h)

theorem mem_putAll {table : Table α} {entries : List (String × α)} {entry : String × α}
    (found : entry ∈ table.putAll entries) : entry ∈ table ∨ entry ∈ entries := by
  induction entries generalizing table with
  | nil => exact Or.inl found
  | cons head rest ih =>
    rcases ih found with stored | later
    · rcases mem_put stored with rfl | old
      · exact Or.inr List.mem_cons_self
      · exact Or.inl old
    · exact Or.inr (List.mem_cons_of_mem head later)

theorem mem_of_mem_ofList {entries : List (String × α)} {entry : String × α}
    (found : entry ∈ ofList entries) : entry ∈ entries := by
  rcases mem_putAll found with impossible | member
  · cases impossible
  · exact member

theorem mem_of_get? {table : Table α} {key : String} {value : α}
    (found : table.get? key = some value) : (key, value) ∈ table := by
  induction table with
  | nil => simp at found
  | cons head rest ih =>
    obtain ⟨k, old⟩ := head
    rw [get?_cons] at found
    split at found
    · rename_i same
      cases found
      exact same ▸ List.mem_cons_self
    · exact List.mem_cons_of_mem _ (ih found)

theorem get?_eq_none_iff {table : Table α} {key : String} :
    table.get? key = none ↔ key ∉ table.keys := by
  induction table with
  | nil => simp [keys]
  | cons head rest ih =>
    obtain ⟨k, old⟩ := head
    by_cases same : k = key
    · simp [get?_cons, keys, same]
    · have apart : ¬key = k := fun h => same h.symm
      rw [get?_cons, if_neg same, ih]
      simp [keys, apart]

theorem contains_iff {table : Table α} {key : String} :
    table.contains key = true ↔ key ∈ table.keys := by
  rw [contains, Option.isSome_iff_ne_none, Ne, get?_eq_none_iff, Decidable.not_not]

theorem keys_append (first second : List (String × α)) :
    keys (first ++ second) = keys first ++ keys second :=
  List.map_append

theorem get?_append (first second : List (String × α)) (key : String) :
    get? (first ++ second) key = (get? first key).or (get? second key) := by
  induction first with
  | nil => rfl
  | cons entry rest ih =>
    rw [List.cons_append, get?_cons, get?_cons, ih]
    split
    · rfl
    · rfl

/-- Storing entries leaves every other key as it is. -/
theorem get?_putAll_of_not_mem {entries : List (String × α)} {key : String}
    (absent : key ∉ keys entries) (table : Table α) :
    (table.putAll entries).get? key = table.get? key := by
  induction entries generalizing table with
  | nil => rfl
  | cons entry rest ih =>
    have parts : key ≠ entry.1 ∧ key ∉ keys rest := by simpa [keys] using absent
    calc
      (putAll (table.put entry.1 entry.2) rest).get? key
        = (table.put entry.1 entry.2).get? key := ih parts.2 _
      _ = table.get? key := get?_put_of_ne parts.1 table entry.2

/-- A stored entry is found, and what was there before is found where no entry was stored. -/
theorem get?_putAll {entries : List (String × α)} (distinct : (keys entries).Nodup)
    (table : Table α) (key : String) :
    (table.putAll entries).get? key = (get? entries key).or (table.get? key) := by
  induction entries generalizing table with
  | nil => rfl
  | cons entry rest ih =>
    obtain ⟨k, value⟩ := entry
    have parts : k ∉ keys rest ∧ (keys rest).Nodup := by simpa [keys] using distinct
    change (putAll (table.put k value) rest).get? key = _
    rw [ih parts.2, get?_cons]
    by_cases same : k = key
    · subst same
      rw [get?_eq_none_iff.2 parts.1, if_pos rfl, get?_put_self]
      rfl
    · rw [if_neg same, get?_put_of_ne fun h => same h.symm]

theorem get?_ofList {entries : List (String × α)} (distinct : (keys entries).Nodup)
    (key : String) : (ofList entries).get? key = get? entries key := by
  rw [ofList, get?_putAll distinct, get?_nil, Option.or_none]

theorem get?_of_mem {table : Table α} (distinct : table.keys.Nodup) {key : String} {value : α}
    (member : (key, value) ∈ table) : table.get? key = some value := by
  induction table with
  | nil => cases member
  | cons entry rest ih =>
    obtain ⟨k, stored⟩ := entry
    have parts : k ∉ keys rest ∧ (keys rest).Nodup := by simpa [keys] using distinct
    rw [get?_cons]
    rcases List.mem_cons.1 member with isFirst | later
    · cases isFirst
      rw [if_pos rfl]
    · have apart : k ≠ key := by
        rintro rfl
        exact parts.1 (List.mem_map.2 ⟨(k, value), later, rfl⟩)
      rw [if_neg apart, ih parts.2 later]

/-- Only the entries whose key passes the test are found. -/
theorem get?_restrict (table : Table α) (keep : String → Bool) (key : String) :
    (table.restrict keep).get? key = if keep key then table.get? key else none := by
  induction table with
  | nil => simp [restrict]
  | cons entry rest ih =>
    obtain ⟨k, value⟩ := entry
    have step : restrict ((k, value) :: rest) keep =
        if keep k then (k, value) :: restrict rest keep else restrict rest keep := by
      simp [restrict, List.filter_cons]
    rw [step, get?_cons]
    by_cases same : k = key
    · subst same
      by_cases kept : keep k = true
      · simp [kept, get?_cons]
      · simp [kept, ih]
    · rw [if_neg same, ← ih]
      split
      · rw [get?_cons, if_neg same]
      · rfl

theorem mem_of_mem_erase {table : Table α} {key : String} {entry : String × α}
    (found : entry ∈ table.erase key) : entry ∈ table :=
  (List.mem_filter.1 found).1

theorem Ordered.nil : Ordered ([] : Table α) := List.Pairwise.nil

/-- The first entry of an ordered table has the least key. -/
theorem Ordered.head_le {key other : String} {value : α} {rest : Table α}
    (ordered : Ordered ((key, value) :: rest)) (has : other ∈ keys ((key, value) :: rest)) :
    key ≤ other := by
  rcases List.mem_cons.1 has with rfl | later
  · exact String.le_refl _
  · obtain ⟨entry, member, rfl⟩ := List.mem_map.1 later
    exact Std.le_of_lt ((List.pairwise_cons.1 ordered).1 entry member)

theorem Ordered.put {table : Table α} (ordered : Ordered table) (key : String)
    (value : α) : Ordered (Table.put table key value) := by
  induction table with
  | nil => simp [Table.put, Ordered]
  | cons head rest ih =>
    obtain ⟨k, old⟩ := head
    have parts := List.pairwise_cons.1 ordered
    by_cases before : key < k
    · rw [Table.put, if_pos before]
      refine List.pairwise_cons.2 ⟨fun entry h => ?_, ordered⟩
      rcases List.mem_cons.1 h with h | h
      · exact h ▸ before
      · exact String.lt_trans before (parts.1 entry h)
    · by_cases same : k = key
      · rw [Table.put, if_neg before, if_pos same]
        exact List.pairwise_cons.2 ⟨fun entry h => same ▸ parts.1 entry h, parts.2⟩
      · rw [Table.put, if_neg before, if_neg same]
        refine List.pairwise_cons.2 ⟨fun entry h => ?_, ih parts.2⟩
        rcases mem_put h with h | h
        · exact h ▸ Std.lt_of_le_of_ne (String.not_lt.1 before) same
        · exact parts.1 entry h

theorem Ordered.erase {table : Table α} (ordered : Ordered table) (key : String) :
    Ordered (Table.erase table key) :=
  List.Pairwise.filter _ ordered

theorem Ordered.restrict {table : Table α} (ordered : Ordered table)
    (keep : String → Bool) : Ordered (Table.restrict table keep) :=
  List.Pairwise.filter _ ordered

theorem Ordered.putAll {table : Table α} (ordered : Ordered table)
    (entries : List (String × α)) : Ordered (Table.putAll table entries) := by
  induction entries generalizing table with
  | nil => exact ordered
  | cons entry rest ih => exact ih (ordered.put entry.1 entry.2)

theorem Ordered.ofList (entries : List (String × α)) : Ordered (Table.ofList entries) :=
  Ordered.nil.putAll entries

theorem ordered_of_keys {table : Table α} (ascending : table.keys.Pairwise (· < ·)) :
    table.Ordered :=
  List.pairwise_map.1 ascending

/-- An entry behind all others is appended. -/
theorem put_of_last {table : Table α} {key : String} (last : ∀ entry ∈ table, entry.1 < key)
    (value : α) : table.put key value = table ++ [(key, value)] := by
  induction table with
  | nil => rfl
  | cons entry rest ih =>
    obtain ⟨k, old⟩ := entry
    have parts := List.forall_mem_cons.1 last
    have behind : k < key := parts.1
    rw [Table.put, if_neg (String.lt_asymm behind), if_neg (Std.ne_of_lt behind), ih parts.2]
    rfl

theorem putAll_of_ordered {table : Table α} {entries : List (String × α)}
    (ordered : Ordered (table ++ entries)) : table.putAll entries = table ++ entries := by
  induction entries generalizing table with
  | nil => exact (List.append_nil table).symm
  | cons entry rest ih =>
    have last : ∀ other ∈ table, other.1 < entry.1 := fun other among =>
      (List.pairwise_append.1 ordered).2.2 other among entry List.mem_cons_self
    have shape : table ++ entry :: rest = table ++ [(entry.1, entry.2)] ++ rest := by simp
    change (table.put entry.1 entry.2).putAll rest = _
    rw [put_of_last last, shape, ih (shape ▸ ordered)]

/-- An ordered list of entries is a table as it is. -/
theorem ofList_of_ordered {entries : List (String × α)} (ordered : Ordered entries) :
    ofList entries = entries :=
  putAll_of_ordered (show Ordered ([] ++ entries) from ordered)

end Table

end Storyboard
