import Mathlib.Data.List.Forall2
import Storyboard.Event
import Storyboard.Proofs.Json.Printed
/-!
# The grammar of events

An event is written as a record with its tag in front: an object with the tag under `type`, or an
array that the tag opens. Of an object's members only those count whose names are the tag's or
those of the event's fields, and each of these may stand there once. Everything that is written
has to have a value, what is not read of it as well.

Reading accepts this grammar and nothing else, and an event that is printed is read as itself.

Main results: `ofWritten?_eq_some_iff`, `parse?_eq_some_iff` and `parse?_toJson`.
-/

namespace Storyboard

namespace Written

/-- What the members of an object have under a name. -/
def Stores (members : List (Option String × Written)) (name : String) (found : Option Written) :
    Prop :=
  members.filter (fun member => member.1 == some name) = (found.map (some name, ·)).toList

/-- A tagged record, with what is written for each of its fields. -/
inductive Tagged (tag : String) (names : List String) : Written → List (Option Written) → Prop where
  | members {members : List (Option String × Written)} {found : List (Option Written)}
      (marked : Stores members "type" (some (.str (some tag))))
      (fields : List.Forall₂ (Stores members) names found) : Tagged tag names (.obj members) found
  | items {items : List Written} (few : items.length ≤ names.length) :
      Tagged tag names (.arr (.str (some tag) :: items))
        (items.map some ++ List.replicate (names.length - items.length) none)

/-- What is written describes an event. -/
inductive Describes : Written → Event → Prop where
  /-- Without field values there are none. -/
  | action {written item : Written} {action : Json}
      (record : Tagged "action_triggered" ["action", "fields"] written [some item, none])
      (value : item.value? fieldDepth = some action) :
      Describes written (.actionTriggered action [])
  | actionWith {written item table : Written} {action : Json} {fields : Fields}
      (record : Tagged "action_triggered" ["action", "fields"] written [some item, some table])
      (value : item.value? fieldDepth = some action)
      (values : table.value? fieldDepth = some (.obj fields)) :
      Describes written (.actionTriggered action fields)
  | back {written : Written} (record : Tagged "back_pressed" [] written []) :
      Describes written .backPressed
  | flowState {written item : Written} {flow : String} {state : Json}
      (record : Tagged "flow_state_changed" ["flow_id", "state"] written
        [some (.str (some flow)), some item])
      (value : item.value? fieldDepth = some state) :
      Describes written (.flowStateChanged flow state)
  | logout {written : Written} (record : Tagged "logout_requested" [] written []) :
      Describes written .logoutRequested

/-! ### Members -/

/-- A member whose key has a text. -/
def keyedMember (member : String × Written) : Option String × Written :=
  (some member.1, member.2)

variable {members : List (Option String × Written)} {keyed : List (String × Written)}
  {name tag : String} {names : List String} {found : List (Option Written)} {written : Written}

theorem keyed?_eq_some_iff : keyed? members = some keyed ↔ members = keyed.map keyedMember := by
  induction members generalizing keyed with
  | nil => simp [keyed?, eq_comm]
  | cons member rest ih =>
      rcases member with ⟨key, item⟩
      cases key with
      | none => cases keyed <;> simp [keyed?, keyedMember]
      | some key =>
          simp only [keyed?, Option.bind_eq_bind, Option.bind_eq_some_iff, Option.some.injEq,
            exists_eq_left', ih]
          cases keyed with
          | nil => simp
          | cons first others => simp [keyedMember, Prod.ext_iff, and_assoc, and_comm]

theorem filter_keyedMember (keyed : List (String × Written)) (name : String) :
    (keyed.map keyedMember).filter (fun member => member.1 == some name) =
      (keyed.filter fun member => member.1 == name).map keyedMember := by
  rw [List.filter_map]
  rfl

theorem member?_eq_some_iff {item : Option Written} :
    member? keyed name = some item ↔ Stores (keyed.map keyedMember) name item := by
  have named : ∀ member ∈ keyed.filter (fun member => member.1 == name), member.1 = name := by
    intro member among
    simpa using (List.mem_filter.1 among).2
  unfold member? Stores
  rw [filter_keyedMember]
  generalize keyed.filter (fun member => member.1 == name) = same at named
  cases same with
  | nil => cases item <;> simp
  | cons first others =>
      rcases first with ⟨key, written⟩
      have key_eq : key = name := named (key, written) List.mem_cons_self
      cases others with
      | nil => cases item <;> simp [keyedMember, key_eq]
      | cons second others => cases item <;> simp

/-- The members of other names say the same without those of one name. -/
theorem stores_filter (distinct : name ≠ tag) {item : Option Written} :
    Stores ((keyed.filter fun member => member.1 != tag).map keyedMember) name item ↔
      Stores (keyed.map keyedMember) name item := by
  have same : (keyed.filter fun member => member.1 != tag).filter
      (fun member => member.1 == name) = keyed.filter fun member => member.1 == name := by
    rw [List.filter_filter]
    apply List.filter_congr
    intro member _
    by_cases own : member.1 = name
    · simp [own, distinct]
    · simp [own]
  unfold Stores
  rw [filter_keyedMember, filter_keyedMember, same]

theorem mapM_member?_eq_some_iff :
    names.mapM (member? keyed) = some found ↔
      List.Forall₂ (Stores (keyed.map keyedMember)) names found := by
  induction names generalizing found with
  | nil => simp [eq_comm]
  | cons name rest ih =>
      simp only [List.mapM_cons, Option.bind_eq_bind, Option.bind_eq_some_iff, Option.pure_def,
        Option.some.injEq, List.forall₂_cons_left_iff, member?_eq_some_iff, ih]
      constructor
      · rintro ⟨item, stores, others, fields, rfl⟩
        exact ⟨item, others, stores, fields, rfl⟩
      · rintro ⟨item, others, stores, fields, rfl⟩
        exact ⟨item, stores, others, fields, rfl⟩

/-! ### Records -/

theorem exists_keyed {room : Nat} {value : Json} (read : (obj members).value? room = some value) :
    ∃ keyed : List (String × Written), members = keyed.map keyedMember := by
  cases room with
  | zero => cases read
  | succ room =>
      rcases Option.map_eq_some_iff.1 read with ⟨fields, readFields, -⟩
      clear read
      induction members generalizing fields with
      | nil => exact ⟨[], rfl⟩
      | cons member rest ih =>
          rcases member with ⟨key, item⟩
          unfold fields? at readFields
          split at readFields
          · rename_i key _ others _ readOthers
            rcases ih others readOthers with ⟨keyed, rfl⟩
            exact ⟨(key, item) :: keyed, rfl⟩
          · cases readFields

theorem tagged?_obj_eq_some_iff {value : Json} {record : Written}
    (read : (obj (keyed.map keyedMember)).value? greatestDepth = some value) :
    tagged? "type" (obj (keyed.map keyedMember)) = some (tag, record) ↔
      Stores (keyed.map keyedMember) "type" (some (.str (some tag))) ∧
        record = .obj ((keyed.filter fun member => member.1 != "type").map keyedMember) := by
  have members : keyed? (keyed.map keyedMember) = some keyed := keyed?_eq_some_iff.2 rfl
  rw [← member?_eq_some_iff]
  simp only [tagged?, read, members, Option.bind_eq_bind, Option.bind_some,
    Option.bind_eq_some_iff]
  constructor
  · rintro ⟨item, found, isTag⟩
    split at isTag
    · cases isTag
      exact ⟨found, rfl⟩
    · cases isTag
  · rintro ⟨found, rfl⟩
    exact ⟨_, found, rfl⟩

theorem tagged?_arr_eq_some_iff {items : List Written} {value : Json} {record : Written}
    (read : (arr items).value? greatestDepth = some value) :
    tagged? "type" (arr items) = some (tag, record) ↔
      ∃ rest, items = .str (some tag) :: rest ∧ record = .arr rest := by
  cases items with
  | nil => simp [tagged?, read]
  | cons first rest =>
      cases first with
      | str text => cases text <;> simp [tagged?, read, and_comm, eq_comm]
      | _ => simp [tagged?, read]

theorem record?_obj_eq_some_iff (untagged : tag ∉ names) :
    (obj ((keyed.filter fun member => member.1 != tag).map keyedMember)).record? names =
        some found ↔
      List.Forall₂ (Stores (keyed.map keyedMember)) names found := by
  have members : keyed? ((keyed.filter fun member => member.1 != tag).map keyedMember) =
      some (keyed.filter fun member => member.1 != tag) := keyed?_eq_some_iff.2 rfl
  simp only [record?, members, Option.bind_eq_bind, Option.bind_some, mapM_member?_eq_some_iff]
  induction names generalizing found with
  | nil => simp
  | cons name rest ih =>
      rcases not_or.1 (mt List.mem_cons.2 untagged) with ⟨distinct, later⟩
      simp only [List.forall₂_cons_left_iff, stores_filter (Ne.symm distinct), ih later]

theorem record?_arr_eq_some_iff {items : List Written} :
    (arr items).record? names = some found ↔
      items.length ≤ names.length ∧
        found = items.map some ++ List.replicate (names.length - items.length) none := by
  have given : items.length ≤ names.length →
      (List.range names.length).map (fun i => items[i]?) =
        items.map some ++ List.replicate (names.length - items.length) none := by
    intro few
    apply List.ext_getElem?
    intro i
    simp only [List.getElem?_map, List.getElem?_append]
    grind
  by_cases few : items.length ≤ names.length
  · simp [record?, given few, few, eq_comm]
  · simp [record?, few]

/-- What is read as a tag and as fields of a record, for fields that the tag is none of. -/
theorem record_iff_tagged (untagged : "type" ∉ names) :
    (∃ record, tagged? "type" written = some (tag, record) ∧ record.record? names = some found) ↔
      (written.value? greatestDepth).isSome = true ∧ Tagged tag names written found := by
  cases read : written.value? greatestDepth with
  | none => simp [tagged?, read]
  | some value =>
      rw [Option.isSome_some, eq_self, true_and]
      cases written with
      | obj members =>
          rcases exists_keyed read with ⟨keyed, rfl⟩
          simp only [tagged?_obj_eq_some_iff read]
          constructor
          · rintro ⟨_, ⟨marked, rfl⟩, fields⟩
            exact .members marked ((record?_obj_eq_some_iff untagged).1 fields)
          · intro record
            cases record with
            | members marked fields =>
                exact ⟨_, ⟨marked, rfl⟩, (record?_obj_eq_some_iff untagged).2 fields⟩
      | arr items =>
          simp only [tagged?_arr_eq_some_iff read]
          constructor
          · rintro ⟨_, ⟨rest, rfl, rfl⟩, fields⟩
            rcases record?_arr_eq_some_iff.1 fields with ⟨few, rfl⟩
            exact .items few
          · intro record
            cases record with
            | items few =>
                exact ⟨_, ⟨_, rfl, rfl⟩, record?_arr_eq_some_iff.2 ⟨few, rfl⟩⟩
      | _ =>
          constructor
          · rintro ⟨record, isTagged, -⟩
            simp [tagged?, read] at isTagged
          · nofun

/-- A record without fields is one of which no field is asked for. -/
theorem isBare_iff {record : Written} (read : tagged? "type" written = some (tag, record)) :
    record.isBare = true ↔ record.record? [] = some [] := by
  cases valued : written.value? greatestDepth with
  | none => simp [tagged?, valued] at read
  | some value =>
      cases written with
      | obj members =>
          rcases exists_keyed valued with ⟨keyed, rfl⟩
          rcases (tagged?_obj_eq_some_iff valued).1 read with ⟨-, rfl⟩
          rw [record?_obj_eq_some_iff List.not_mem_nil]
          exact iff_of_true rfl .nil
      | arr items =>
          rcases (tagged?_arr_eq_some_iff valued).1 read with ⟨rest, -, rfl⟩
          rw [record?_arr_eq_some_iff]
          cases rest <;> simp [isBare]
      | _ => simp [tagged?, valued] at read

theorem bare_iff_tagged :
    (∃ record, tagged? "type" written = some (tag, record) ∧ record.isBare = true) ↔
      (written.value? greatestDepth).isSome = true ∧ Tagged tag [] written [] := by
  rw [← record_iff_tagged List.not_mem_nil]
  constructor
  · rintro ⟨record, read, bare⟩
    exact ⟨record, read, (isBare_iff read).1 bare⟩
  · rintro ⟨record, read, fields⟩
    exact ⟨record, read, (isBare_iff read).2 fields⟩

theorem table?_eq_some_iff {fields : Fields} :
    written.table? = some fields ↔ written.value? fieldDepth = some (.obj fields) := by
  unfold table?
  split
  · rename_i read
    simp [read]
  · rename_i other
    simp only [reduceCtorEq, false_iff]
    exact other fields

end Written

namespace Event

open Written

variable {written record : Written} {tag text : String} {event : Event}

theorem text?_eq_some_iff : written.text? = some text ↔ written = .str (some text) := by
  cases written <;> simp [text?]

theorem describes_of_read (isTagged : written.tagged? "type" = some (tag, record))
    (read : ofTagged? tag record = some event) : written.Describes event := by
  have fieldsOf : ∀ {names found}, "type" ∉ names → record.record? names = some found →
      Tagged tag names written found :=
    fun untagged stored => ((record_iff_tagged untagged).1 ⟨record, isTagged, stored⟩).2
  have bareOf : record.isBare = true → Tagged tag [] written [] :=
    fun bare => (bare_iff_tagged.1 ⟨record, isTagged, bare⟩).2
  simp only [ofTagged?, Option.bind_eq_bind, Option.pure_def] at read
  split at read
  · subst tag
    rcases Option.bind_eq_some_iff.1 read with ⟨found, stored, read⟩
    have fields := fieldsOf (by decide) stored
    split at read
    · rcases Option.bind_eq_some_iff.1 read with ⟨action, value, read⟩
      cases read
      exact .action fields value
    · rcases Option.bind_eq_some_iff.1 read with ⟨action, value, read⟩
      rcases Option.bind_eq_some_iff.1 read with ⟨values, table, read⟩
      cases read
      exact .actionWith fields value (table?_eq_some_iff.1 table)
    · cases read
  split at read
  · subst tag
    rcases Option.bind_eq_some_iff.1 read with ⟨found, stored, read⟩
    have fields := fieldsOf (by decide) stored
    split at read
    · rcases Option.bind_eq_some_iff.1 read with ⟨flow, isText, read⟩
      rcases Option.bind_eq_some_iff.1 read with ⟨state, value, read⟩
      cases read
      rw [text?_eq_some_iff.1 isText] at fields
      exact .flowState fields value
    · cases read
  split at read
  · subst tag
    split at read
    · rename_i bare
      cases read
      exact .back (bareOf bare)
    · cases read
  split at read
  · subst tag
    split at read
    · rename_i bare
      cases read
      exact .logout (bareOf bare)
    · cases read
  · cases read

theorem ofWritten?_of_describes (valued : (written.value? greatestDepth).isSome = true)
    (describes : written.Describes event) : ofWritten? written = some event := by
  have recordOf : ∀ {tag names found}, "type" ∉ names → Tagged tag names written found →
      ∃ record, written.tagged? "type" = some (tag, record) ∧ record.record? names = some found :=
    fun untagged fields => (record_iff_tagged untagged).2 ⟨valued, fields⟩
  have bareOf : ∀ {tag}, Tagged tag [] written [] →
      ∃ record, written.tagged? "type" = some (tag, record) ∧ record.isBare = true :=
    fun fields => bare_iff_tagged.2 ⟨valued, fields⟩
  cases describes with
  | action fields value =>
      rcases recordOf (by decide) fields with ⟨record, isTagged, stored⟩
      simp [ofWritten?, ofTagged?, isTagged, stored, value]
  | actionWith fields value values =>
      rcases recordOf (by decide) fields with ⟨record, isTagged, stored⟩
      simp [ofWritten?, ofTagged?, isTagged, stored, value, table?_eq_some_iff.2 values]
  | back fields =>
      rcases bareOf fields with ⟨record, isTagged, bare⟩
      simp [ofWritten?, ofTagged?, isTagged, bare]
  | flowState fields value =>
      rcases recordOf (by decide) fields with ⟨record, isTagged, stored⟩
      simp [ofWritten?, ofTagged?, isTagged, stored, value, text?]
  | logout fields =>
      rcases bareOf fields with ⟨record, isTagged, bare⟩
      simp [ofWritten?, ofTagged?, isTagged, bare]

theorem ofWritten?_eq_some_iff :
    ofWritten? written = some event ↔
      (written.value? greatestDepth).isSome = true ∧ written.Describes event := by
  constructor
  · intro read
    rcases Option.bind_eq_some_iff.1 read with ⟨⟨tag, record⟩, isTagged, read⟩
    refine ⟨?_, describes_of_read isTagged read⟩
    cases valued : written.value? greatestDepth with
    | none => simp [tagged?, valued] at isTagged
    | some value => rfl
  · rintro ⟨valued, describes⟩
    exact ofWritten?_of_describes valued describes

/-- A text describes an event if it is JSON, all of it has a value, and what is written
describes the event. -/
theorem parse?_eq_some_iff :
    parse? text = some event ↔
      ∃ written, Written.parse? text = some written ∧
        (written.value? greatestDepth).isSome = true ∧ written.Describes event := by
  simp only [parse?, Option.bind_eq_some_iff, ofWritten?_eq_some_iff]

/-! ### Printed events -/

/-- What comes with the event can be printed. -/
def Plain : Event → Prop
  | actionTriggered action fields =>
      action.Printable fieldDepth ∧ (Json.obj fields).Printable fieldDepth
  | flowStateChanged _ state => state.Printable fieldDepth
  | backPressed | logoutRequested => True

/-- Of three keys the last is stored first, then the other two by ascending key. -/
theorem ofList_three {first second last : String} (before : first < second) (after : second < last)
    (tag item next : Json) :
    Table.ofList [(last, tag), (first, item), (second, next)] =
      [(first, item), (second, next), (last, tag)] := by
  have outer : first < last := String.lt_trans before after
  simp only [Table.ofList, Table.putAll, List.foldl_cons, List.foldl_nil, Table.put, if_pos outer,
    if_neg (String.lt_asymm before), if_neg (Std.ne_of_lt before), if_pos after]

theorem toJson_actionTriggered (action : Json) (fields : Fields) :
    (actionTriggered action fields).toJson =
      .obj [("action", action), ("fields", .obj fields), ("type", .str "action_triggered")] :=
  congrArg Json.obj (ofList_three (by decide) (by decide) _ _ _)

theorem toJson_flowStateChanged (flow : String) (state : Json) :
    (flowStateChanged flow state).toJson =
      .obj [("flow_id", .str flow), ("state", state), ("type", .str "flow_state_changed")] :=
  congrArg Json.obj (ofList_three (by decide) (by decide) _ _ _)

theorem Plain.printable (plain : event.Plain) : event.toJson.Printable greatestDepth := by
  -- A field is one level further down than the event.
  have object : ∀ {fields : Fields}, fields.Ordered →
      (∀ key value, (key, value) ∈ fields → value.Printable fieldDepth) →
        (Json.obj fields).Printable greatestDepth := .obj
  cases event with
  | actionTriggered action fields =>
      rw [toJson_actionTriggered]
      have ascending : ["action", "fields", "type"].Pairwise (· < ·) := by decide
      refine object (Table.ordered_of_keys ascending) ?_
      intro key value member
      simp only [List.mem_cons, Prod.mk.injEq, List.not_mem_nil, or_false] at member
      rcases member with ⟨-, rfl⟩ | ⟨-, rfl⟩ | ⟨-, rfl⟩
      · exact plain.1
      · exact plain.2
      · exact .str _
  | flowStateChanged flow state =>
      rw [toJson_flowStateChanged]
      have ascending : ["flow_id", "state", "type"].Pairwise (· < ·) := by decide
      refine object (Table.ordered_of_keys ascending) ?_
      intro key value member
      simp only [List.mem_cons, Prod.mk.injEq, List.not_mem_nil, or_false] at member
      rcases member with ⟨-, rfl⟩ | ⟨-, rfl⟩ | ⟨-, rfl⟩
      · exact .str _
      · exact plain
      · exact .str _
  | backPressed | logoutRequested =>
      refine object (Table.Ordered.ofList _) ?_
      intro key value member
      cases Table.mem_of_mem_ofList member with
      | head => exact .str _
      | tail _ later => cases later

theorem Plain.describes (plain : event.Plain) : (ofJson event.toJson).Describes event := by
  cases event with
  | actionTriggered action fields =>
      rw [toJson_actionTriggered]
      refine .actionWith (.members ?_ (.cons ?_ (.cons ?_ .nil))) (value?_ofJson plain.1)
        (value?_ofJson plain.2)
      all_goals simp [Stores, ofFields, ofJson]
  | backPressed => exact .back (.members rfl .nil)
  | flowStateChanged flow state =>
      rw [toJson_flowStateChanged]
      refine .flowState (.members ?_ (.cons ?_ (.cons ?_ .nil))) (value?_ofJson plain)
      all_goals simp [Stores, ofFields, ofJson]
  | logoutRequested => exact .logout (.members rfl .nil)

/-- A printed event is read as itself. -/
theorem parse?_toJson (plain : event.Plain) : parse? event.toJson.compact = some event := by
  have value := value?_ofJson plain.printable
  exact parse?_eq_some_iff.2
    ⟨_, parse?_compact plain.printable, by rw [value]; rfl, plain.describes⟩

end Event

end Storyboard
