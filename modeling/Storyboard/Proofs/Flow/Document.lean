import Storyboard.Flow.Document
import Storyboard.Json.Printer
import Storyboard.Proofs.Json.Tree
/-!
# What flow documents hold

The parts of a flow document, with what each has to be. A document is read as a flow if and only
if every part is as it has to be, and otherwise the report is on the first part that is not. A
flow that was read has a screen to show first, and written down again it reads as itself.

Main result: `parse_reads`.
-/

namespace Storyboard

/-! ### Order -/

/-- Every object in a value lists its members by ascending key. -/
def Json.Sorted (value : Json) : Prop :=
  ∀ fields : Fields, value.HasPart false (.obj fields) → fields.Ordered

theorem Json.Sorted.arr {items : List Json} (sorted : ∀ item ∈ items, item.Sorted) :
    (Json.arr items).Sorted := by
  intro fields part
  cases part with
  | item member below => exact sorted _ member fields below

theorem Json.Sorted.obj {fields : Fields} (ordered : fields.Ordered)
    (sorted : ∀ entry ∈ fields, entry.2.Sorted) : (Json.obj fields).Sorted := by
  intro inner part
  cases part with
  | self => exact ordered
  | value _ member below => exact sorted _ member inner below

namespace Written

mutual

theorem sorted_of_value? : ∀ {written : Written} {room : Nat} {value : Json},
    written.value? room = some value → value.Sorted
  | .null, _, _, read | .bool _, _, _, read => by
      cases read
      exact nofun
  | .number literal, _, _, read => by
      rcases Option.map_eq_some_iff.1 read with ⟨number, -, rfl⟩
      cases number <;> exact nofun
  | .str text, _, _, read => by
      rcases Option.map_eq_some_iff.1 read with ⟨chars, -, rfl⟩
      exact nofun
  | .arr _, 0, _, read | .obj _, 0, _, read => by cases read
  | .arr items, room + 1, _, read => by
      rcases Option.map_eq_some_iff.1 read with ⟨values, readItems, rfl⟩
      exact .arr (sorted_of_values? readItems)
  | .obj members, room + 1, _, read => by
      rcases Option.map_eq_some_iff.1 read with ⟨fields, readMembers, rfl⟩
      refine .obj (Table.Ordered.ofList fields) ?_
      intro entry member
      exact sorted_of_fields? readMembers entry (Table.mem_of_mem_ofList member)
termination_by structural written => written

theorem sorted_of_values? : ∀ {items : List Written} {room : Nat} {values : List Json},
    values? items room = some values → ∀ value ∈ values, value.Sorted
  | [], _, _, read, value, member => by
      cases read
      cases member
  | item :: rest, room, _, read, value, member => by
      rw [values?] at read
      split at read
      · rename_i first others readFirst readOthers
        cases read
        rcases List.mem_cons.1 member with rfl | later
        · exact sorted_of_value? readFirst
        · exact sorted_of_values? readOthers value later
      · cases read
termination_by structural items => items

theorem sorted_of_fields? : ∀ {members : List (Option String × Written)} {room : Nat}
    {fields : List (String × Json)}, fields? members room = some fields →
      ∀ entry ∈ fields, entry.2.Sorted
  | [], _, _, read, entry, member => by
      cases read
      cases member
  | (key, item) :: rest, room, _, read, entry, member => by
      unfold fields? at read
      split at read
      · rename_i readFirst readOthers
        cases read
        rcases List.mem_cons.1 member with rfl | later
        · exact sorted_of_value? readFirst
        · exact sorted_of_fields? readOthers entry later
      · cases read
termination_by structural members => members

end

end Written

theorem Json.sorted_of_parse? {text : String} {document : Json}
    (parsed : Json.parse? text = some document) : document.Sorted := by
  rcases Option.bind_eq_some_iff.1 parsed with ⟨written, -, read⟩
  exact Written.sorted_of_value? read

namespace Flow

/-! ### Screens -/

variable {flow : Flow} {screen : String}

theorem namedScreen?_eq_some_iff :
    flow.namedScreen? = some screen ↔
      flow.properties.get? "initialScreen" = some (.str screen) ∧
        flow.hasScreen screen = true := by
  unfold namedScreen?
  split
  · rename_i name found
    rw [found]
    by_cases has : flow.hasScreen name = true
    · rw [if_pos has]
      grind
    · rw [if_neg has]
      grind
  · rename_i other
    constructor
    · nofun
    · rintro ⟨found, -⟩
      exact (other screen found).elim

theorem initialScreen?_eq_some_iff :
    flow.initialScreen? = some screen ↔
      flow.namedScreen? = some screen ∨
        flow.namedScreen? = none ∧ flow.screens.keys.head? = some screen := by
  unfold initialScreen?
  cases flow.namedScreen? <;> simp

/-- The screen to show first is one that the flow has. -/
theorem hasScreen_of_initialScreen? (first : flow.initialScreen? = some screen) :
    flow.hasScreen screen = true := by
  rcases initialScreen?_eq_some_iff.1 first with named | ⟨-, least⟩
  · exact (namedScreen?_eq_some_iff.1 named).2
  · exact Table.contains_iff.2 (List.mem_of_mem_head? least)

theorem exists_initialScreen? (screens : flow.screens ≠ []) :
    ∃ screen, flow.initialScreen? = some screen := by
  unfold initialScreen?
  cases flow.namedScreen? with
  | some screen => exact ⟨screen, rfl⟩
  | none =>
      cases listed : flow.screens with
      | nil => exact (screens listed).elim
      | cons head rest => exact ⟨head.1, rfl⟩

/-- The screen that a flow shows first: the one that the properties name, if the flow has it,
else the least one. -/
structure OpensWith (flow : Flow) (screen : String) : Prop where
  shows : flow.initialScreen? = some screen
  has : flow.hasScreen screen = true
  named : ∀ name, flow.properties.get? "initialScreen" = some (.str name) →
    flow.hasScreen name = true → screen = name
  least : (∀ name, flow.properties.get? "initialScreen" = some (.str name) →
    flow.hasScreen name = false) → ∀ other, flow.hasScreen other = true → screen ≤ other

theorem opensWith_of_initialScreen? (ordered : flow.screens.Ordered)
    (first : flow.initialScreen? = some screen) : flow.OpensWith screen := by
  refine ⟨first, hasScreen_of_initialScreen? first, ?_, ?_⟩
  · intro name found has
    have named := namedScreen?_eq_some_iff.2 ⟨found, has⟩
    simpa [initialScreen?, named] using first.symm
  · intro unnamed other has
    have head : flow.screens.keys.head? = some screen := by
      rcases initialScreen?_eq_some_iff.1 first with named | ⟨-, least⟩
      · rcases namedScreen?_eq_some_iff.1 named with ⟨found, hasNamed⟩
        rw [unnamed screen found] at hasNamed
        cases hasNamed
      · exact least
    have listed := Table.contains_iff.1 has
    cases screens : flow.screens with
    | nil =>
        rw [screens] at head
        cases head
    | cons entry rest =>
        rw [screens] at head listed ordered
        cases head
        exact ordered.head_le listed

/-! ### Parts -/

/-- The parts of a document that are checked. -/
inductive Part where
  | root
  | marker
  | id
  | screens
  | properties
deriving DecidableEq

namespace Part

/-- The place of a part in the order of checks. -/
def rank : Part → Nat
  | root => 0
  | marker => 1
  | id => 2
  | screens => 3
  | properties => 4

/-- How a report names a part. -/
def field : Part → String
  | root => "<root>"
  | marker => "type"
  | id => "flowId"
  | screens => "screens"
  | properties => "properties"

/-- The part is as it has to be. -/
def Sound (document : Json) : Part → Prop
  | root => ∃ fields, document = .obj fields
  | marker => document.field? "type" = some (.str "flow")
  | id => ∃ id, id ≠ "" ∧ document.field? "flowId" = some (.str id)
  | screens => ∃ screens, screens ≠ [] ∧ document.field? "screens" = some (.obj screens)
  | properties => ∀ value, document.field? "properties" = some value →
      value = .null ∨ ∃ properties, value = .obj properties

def requirement : Part → String
  | root | properties => "must be an object"
  | marker => "must be \"flow\""
  | id => "must be a non-empty string"
  | screens => "must be a non-empty map"

/-- What a report says of a part. -/
def complaint (document : Json) (part : Part) : String :=
  if part ≠ root ∧ document.field? part.field = none then "is missing" else part.requirement

/-- The part is the first one that is not as it has to be. -/
structure FirstWrong (document : Json) (part : Part) : Prop where
  wrong : ¬part.Sound document
  earlier : ∀ other : Part, other.rank < part.rank → other.Sound document

theorem eq_of_rank {part other : Part} (same : part.rank = other.rank) : part = other := by
  cases part <;> cases other <;> first | rfl | cases same

theorem FirstWrong.unique {document : Json} {part other : Part}
    (first : part.FirstWrong document) (second : other.FirstWrong document) : part = other := by
  rcases Nat.lt_trichotomy part.rank other.rank with less | same | greater
  · exact (first.wrong (second.earlier part less)).elim
  · exact eq_of_rank same
  · exact (second.wrong (first.earlier other greater)).elim

end Part

/-- The flow holds what the document says, and nothing else of the document matters. -/
structure Describes (document : Json) (flow : Flow) : Prop where
  id : document.field? "flowId" = some (.str flow.id)
  screens : document.field? "screens" = some (.obj flow.screens)
  properties : document.field? "properties" = some (.obj flow.properties) ∨
    flow.properties = [] ∧
      (document.field? "properties" = none ∨ document.field? "properties" = some .null)

/-! ### Checks -/

def report (subject : String) (document : Json) (part : Part) : Fault :=
  .malformed subject part.field (part.complaint document)

/-- A check of a part gives a value that the part stands for, or the report on the part. -/
def Checks {α : Type} (subject : String) (document : Json) (part : Part) (Holds : α → Prop)
    (result : Except Fault α) : Prop :=
  part.Sound document ∧ (∃ value, result = .ok value ∧ Holds value) ∨
    ¬part.Sound document ∧ result = .error (report subject document part)

/-- The parts from a rank on are checked in order. -/
def Settles {α : Type} (subject : String) (document : Json) (rank : Nat) (Holds : α → Prop)
    (result : Except Fault α) : Prop :=
  (∀ part : Part, rank ≤ part.rank → part.Sound document) ∧
      (∃ value, result = .ok value ∧ Holds value) ∨
    ∃ part : Part, rank ≤ part.rank ∧ ¬part.Sound document ∧
      (∀ other : Part, rank ≤ other.rank → other.rank < part.rank → other.Sound document) ∧
      result = .error (report subject document part)

section Checks

variable {α β : Type} {subject : String} {document : Json} {fields : Fields} {part : Part}

theorem Settles.done {value : α} {Holds : α → Prop} (holds : Holds value) :
    Settles subject document 5 Holds (.ok value) := by
  refine Or.inl ⟨?_, value, rfl, holds⟩
  intro part high
  cases part <;> simp [Part.rank] at high

theorem Checks.bind {Holds : α → Prop} {Next : β → Prop} {result : Except Fault α}
    {next : α → Except Fault β} (checks : Checks subject document part Holds result)
    (goesOn : ∀ value, Holds value →
      Settles subject document (part.rank + 1) Next (next value)) :
    Settles subject document part.rank Next (result >>= next) := by
  rcases checks with ⟨sound, value, rfl, holds⟩ | ⟨wrong, rfl⟩
  · have reached : ∀ other : Part, part.rank ≤ other.rank →
        other = part ∨ part.rank + 1 ≤ other.rank := by
      intro other high
      rcases Nat.eq_or_lt_of_le high with same | above
      · exact Or.inl (Part.eq_of_rank same).symm
      · exact Or.inr above
    rcases goesOn value holds with ⟨rest, done⟩ | ⟨first, high, wrong, earlier, reports⟩
    · refine Or.inl ⟨?_, done⟩
      intro other high
      rcases reached other high with rfl | above
      · exact sound
      · exact rest other above
    · refine Or.inr ⟨first, by omega, wrong, ?_, reports⟩
      intro other high less
      rcases reached other high with rfl | above
      · exact sound
      · exact earlier other above less
  · refine Or.inr ⟨part, Nat.le_refl _, wrong, ?_, rfl⟩
    intro other high less
    omega

theorem Checks.accepted {Holds : α → Prop} {value : α} (sound : part.Sound document)
    (holds : Holds value) : Checks subject document part Holds (.ok value) :=
  Or.inl ⟨sound, value, rfl, holds⟩

theorem Checks.refused {Holds : α → Prop} {value : Json}
    (found : fields.get? part.field = some value) (wrong : ¬part.Sound (.obj fields)) :
    Checks subject (.obj fields) part Holds
      (.error (.malformed subject part.field part.requirement)) := by
  refine Or.inr ⟨wrong, ?_⟩
  rw [report, Part.complaint, if_neg]
  simp [Json.field?, found]

theorem Checks.missing {Holds : α → Prop} (inside : part ≠ .root)
    (missing : fields.get? part.field = none) (wrong : ¬part.Sound (.obj fields)) :
    Checks subject (.obj fields) part Holds
      (.error (.malformed subject part.field "is missing")) := by
  refine Or.inr ⟨wrong, ?_⟩
  rw [report, Part.complaint, if_pos ⟨inside, missing⟩]

theorem checkMarker_checks (subject : String) (fields : Fields) :
    Checks subject (.obj fields) .marker (fun _ => True) (checkMarker subject fields) := by
  unfold checkMarker
  split
  · rename_i value found
    by_cases marked : value = .str marker
    · rw [if_pos marked]
      exact .accepted (found.trans (congrArg some marked)) trivial
    · rw [if_neg marked]
      refine .refused found ?_
      intro sound
      exact marked (Option.some.inj (found.symm.trans sound))
  · rename_i absent
    refine .missing (by decide) absent ?_
    intro sound
    cases absent.symm.trans sound

theorem readId_checks (subject : String) (fields : Fields) :
    Checks subject (.obj fields) .id (fun id => fields.get? "flowId" = some (.str id))
      (readId subject fields) := by
  unfold readId
  split
  · rename_i id found
    by_cases empty : id = ""
    · rw [if_pos empty]
      refine .refused found ?_
      rintro ⟨other, filled, same⟩
      cases found.symm.trans same
      exact filled empty
    · rw [if_neg empty]
      exact .accepted ⟨id, empty, found⟩ found
  · rename_i value other found
    refine .refused found ?_
    rintro ⟨id, -, same⟩
    cases found.symm.trans same
    exact other id rfl
  · rename_i absent
    refine .missing (by decide) absent ?_
    rintro ⟨id, -, same⟩
    cases absent.symm.trans same

theorem readScreens_checks (subject : String) (fields : Fields) :
    Checks subject (.obj fields) .screens
      (fun screens => fields.get? "screens" = some (.obj screens))
      (readScreens subject fields) := by
  unfold readScreens
  split
  · rename_i found
    refine .refused found ?_
    rintro ⟨screens, filled, same⟩
    cases found.symm.trans same
    exact filled rfl
  · rename_i screens filled found
    exact .accepted ⟨screens, filled, found⟩ found
  · rename_i value empty other found
    refine .refused found ?_
    rintro ⟨screens, -, same⟩
    cases found.symm.trans same
    exact other screens rfl
  · rename_i absent
    refine .missing (by decide) absent ?_
    rintro ⟨screens, -, same⟩
    cases absent.symm.trans same

theorem readProperties_checks (subject : String) (fields : Fields) :
    Checks subject (.obj fields) .properties
      (fun properties => fields.get? "properties" = some (.obj properties) ∨
        properties = [] ∧
          (fields.get? "properties" = none ∨ fields.get? "properties" = some .null))
      (readProperties subject fields) := by
  unfold readProperties
  split
  · rename_i properties found
    refine .accepted ?_ (Or.inl found)
    intro value same
    cases found.symm.trans same
    exact Or.inr ⟨properties, rfl⟩
  · rename_i found
    refine .accepted ?_ (Or.inr ⟨rfl, Or.inr found⟩)
    intro value same
    cases found.symm.trans same
    exact Or.inl rfl
  · rename_i absent
    refine .accepted ?_ (Or.inr ⟨rfl, Or.inl absent⟩)
    intro value same
    cases absent.symm.trans same
  · rename_i value other filled found
    refine .refused found ?_
    intro sound
    rcases sound value found with rfl | ⟨properties, rfl⟩
    · exact filled rfl
    · exact other properties rfl

theorem ofJson_settles (subject : String) (document : Json) :
    Settles subject document 0 (Describes document) (ofJson subject document) := by
  cases document with
  | obj fields =>
      have rooted : Checks subject (.obj fields) .root (fun _ => True) (.ok ()) :=
        .accepted ⟨fields, rfl⟩ trivial
      change Settles subject (.obj fields) 0 _
        (Except.ok () >>= fun _ => ofJson subject (.obj fields))
      refine rooted.bind ?_
      intro _ _
      refine (checkMarker_checks subject fields).bind ?_
      intro _ _
      refine (readId_checks subject fields).bind ?_
      intro id identified
      refine (readScreens_checks subject fields).bind ?_
      intro screens shown
      refine (readProperties_checks subject fields).bind ?_
      intro properties held
      exact .done ⟨identified, shown, held⟩
  | _ =>
      refine Or.inr ⟨.root, Nat.le_refl _, nofun, ?_, rfl⟩
      intro other _ less
      cases less

end Checks

/-! ### Reading -/

variable {subject : String} {document : Json}

theorem ofJson_cases (subject : String) (document : Json) :
    (∀ part : Part, part.Sound document) ∧
        (∃ flow : Flow, ofJson subject document = .ok flow ∧ flow.Describes document) ∨
      ∃ part : Part, part.FirstWrong document ∧
        ofJson subject document = .error (report subject document part) := by
  rcases ofJson_settles subject document with
    ⟨sound, read⟩ | ⟨part, -, wrong, earlier, reports⟩
  · exact Or.inl ⟨fun part => sound part (Nat.zero_le _), read⟩
  · exact Or.inr ⟨part, ⟨wrong, fun other => earlier other (Nat.zero_le _)⟩, reports⟩

theorem ofJson_eq_ok {flow : Flow} (read : ofJson subject document = .ok flow) :
    (∀ part : Part, part.Sound document) ∧ flow.Describes document := by
  rcases ofJson_cases subject document with ⟨sound, other, same, describes⟩ | ⟨part, -, reports⟩
  · cases same.symm.trans read
    exact ⟨sound, describes⟩
  · cases reports.symm.trans read

theorem ofJson_of_sound (subject : String) (sound : ∀ part : Part, part.Sound document) :
    ∃ flow : Flow, ofJson subject document = .ok flow ∧ flow.Describes document := by
  rcases ofJson_cases subject document with ⟨-, read⟩ | ⟨part, first, -⟩
  · exact read
  · exact (first.wrong (sound part)).elim

theorem ofJson_eq_error_iff {fault : Fault} :
    ofJson subject document = .error fault ↔
      ∃ part : Part, part.FirstWrong document ∧ fault = report subject document part := by
  constructor
  · intro refused
    rcases ofJson_cases subject document with ⟨-, flow, read, -⟩ | ⟨part, first, reports⟩
    · cases read.symm.trans refused
    · exact ⟨part, first, Except.error.inj (refused.symm.trans reports)⟩
  · rintro ⟨part, first, rfl⟩
    rcases ofJson_cases subject document with ⟨sound, -⟩ | ⟨other, second, reports⟩
    · exact (first.wrong (sound part)).elim
    · rw [first.unique second, reports]

theorem id_ne_empty_of_ofJson {flow : Flow} (read : ofJson subject document = .ok flow) :
    flow.id ≠ "" := by
  rcases ofJson_eq_ok read with ⟨sound, describes⟩
  rcases sound .id with ⟨id, filled, found⟩
  cases describes.id.symm.trans found
  exact filled

theorem screens_ordered_of_ofJson {flow : Flow} (sorted : document.Sorted)
    (read : ofJson subject document = .ok flow) : flow.screens.Ordered := by
  have found := (ofJson_eq_ok read).2.screens
  cases document with
  | obj fields => exact sorted _ (.value nofun (Table.mem_of_get? found) (.self _))
  | _ => cases found

theorem screens_ne_nil_of_ofJson {flow : Flow} (read : ofJson subject document = .ok flow) :
    flow.screens ≠ [] := by
  rcases ofJson_eq_ok read with ⟨sound, describes⟩
  rcases sound .screens with ⟨screens, filled, found⟩
  cases describes.screens.symm.trans found
  exact filled

/-- A flow with a name and a screen, written down, has every part as it has to be. -/
theorem sound_toJson {flow : Flow} (id : flow.id ≠ "") (screens : flow.screens ≠ [])
    (part : Part) : part.Sound flow.toJson := by
  cases part with
  | root => exact ⟨_, rfl⟩
  | marker => simp [Part.Sound, toJson, Json.field?, Table.get?_cons, marker]
  | id => exact ⟨flow.id, id, by simp [toJson, Json.field?, Table.get?_cons]⟩
  | screens => exact ⟨flow.screens, screens, by simp [toJson, Json.field?, Table.get?_cons]⟩
  | properties =>
      intro value found
      right
      refine ⟨flow.properties, ?_⟩
      simpa [toJson, Json.field?, Table.get?_cons] using found.symm

theorem eq_of_describes_toJson {flow other : Flow} (describes : other.Describes flow.toJson) :
    other = flow := by
  rcases other with ⟨id, properties, screens⟩
  rcases describes with ⟨sameId, sameScreens, held⟩
  simp only [toJson, Json.field?, Table.get?_cons, ↓reduceIte, Option.some.injEq,
    Json.str.injEq, Json.obj.injEq, String.reduceEq, reduceCtorEq, or_self, and_false,
    or_false] at sameId sameScreens held
  subst sameId sameScreens held
  rfl

theorem ofJson_toJson {flow : Flow} (subject : String) (id : flow.id ≠ "")
    (screens : flow.screens ≠ []) : ofJson subject flow.toJson = .ok flow := by
  rcases ofJson_of_sound subject (sound_toJson id screens) with ⟨other, read, describes⟩
  rw [read, eq_of_describes_toJson describes]

/-- What is promised of a document that is read as a flow. -/
structure Reads (subject : String) (document : Json) (result : Except Fault Flow) : Prop where
  accepts : (∃ flow, result = .ok flow) ↔ ∀ part : Part, part.Sound document
  holds : ∀ flow, result = .ok flow → flow.Describes document
  reports : ∀ fault, result = .error fault ↔
    ∃ part : Part, part.FirstWrong document ∧
      fault = .malformed subject part.field (part.complaint document)
  /-- What was read and is written down again is read as it was. -/
  restores : ∀ flow, result = .ok flow → ∀ other, ofJson other flow.toJson = .ok flow
  opens : ∀ flow, result = .ok flow → ∃ screen, flow.OpensWith screen

/-- Every document of a text is read as promised. -/
theorem parse_reads {id text : String} {document : Json}
    (parsed : Json.parse? text = some document) :
    Reads (Flow.subject id) document (Flow.parse id text) := by
  have read : Flow.parse id text = ofJson (Flow.subject id) document := by
    simp only [parse, parsed]
  rw [read]
  refine ⟨⟨?_, ?_⟩, ?_, ?_, ?_, ?_⟩
  · rintro ⟨flow, accepted⟩
    exact (ofJson_eq_ok accepted).1
  · intro sound
    rcases ofJson_of_sound (Flow.subject id) sound with ⟨flow, accepted, -⟩
    exact ⟨flow, accepted⟩
  · intro flow accepted
    exact (ofJson_eq_ok accepted).2
  · intro fault
    exact ofJson_eq_error_iff
  · intro flow accepted other
    exact ofJson_toJson other (id_ne_empty_of_ofJson accepted) (screens_ne_nil_of_ofJson accepted)
  · intro flow accepted
    rcases exists_initialScreen? (screens_ne_nil_of_ofJson accepted) with ⟨screen, first⟩
    refine ⟨screen, opensWith_of_initialScreen? ?_ first⟩
    exact screens_ordered_of_ofJson (Json.sorted_of_parse? parsed) accepted

/-- A document with a field that does not matter, two screens and no properties. -/
def sampleDocument : Json :=
  .obj [("flowId", .str "shop"), ("note", .bool true), ("properties", .null),
    ("screens", .obj [("items", .obj []), ("offers", .obj [])]), ("type", .str marker)]

theorem parse_reads_of_shop :
    Json.parse? sampleDocument.compact = some sampleDocument ∧
      Reads (Flow.subject "shop") sampleDocument (Flow.parse "shop" sampleDocument.compact) := by
  have parsed : Json.parse? sampleDocument.compact = some sampleDocument := by decide +kernel
  exact ⟨parsed, parse_reads parsed⟩

end Flow

end Storyboard
