import Storyboard.Engine.Step
import Storyboard.Proofs.Action.Payload
/-!
# The grammar of triggers

A trigger is a descriptor or an array of descriptors, and a descriptor is an object with a known
tag, fields that obey the rules of its kind, and continuations that are again triggers. The whole
tree is read before anything runs: a defect in a branch that would never run counts as much as
one at the root. Reading accepts this grammar and nothing else, and of all defects it reports the
one that comes first.

Main result: `ofJson_reads`.
-/

namespace Storyboard

namespace Action

mutual

/-- A value is a trigger. -/
inductive IsTrigger : Json → Prop where
  | single {fields : Fields} (descriptor : IsDescriptor (.obj fields)) : IsTrigger (.obj fields)
  | chain {items : List Json} (descriptors : ∀ item ∈ items, IsDescriptor item) :
      IsTrigger (.arr items)

/-- A value is a descriptor. A continuation may be left out, but `null` is none. -/
inductive IsDescriptor : Json → Prop where
  | object {fields : Fields} {tag : String} (tagged : fields.get? "action" = some (.str tag))
      (known : tag ∈ tags) (payload : ∀ rule ∈ payloadRules tag, rule.Accepts fields)
      (onSuccess : ∀ value, fields.get? "onSuccess" = some value → IsTrigger value)
      (onError : ∀ value, fields.get? "onError" = some value → IsTrigger value) :
      IsDescriptor (.obj fields)

end

/-- The complaint about the tag of an object. -/
inductive TagDefect (fields : Fields) : String → Prop where
  | missing (absent : fields.get? "action" = none) : TagDefect fields "is missing"
  | mistyped {value : Json} (found : fields.get? "action" = some value)
      (noText : ∀ tag, value ≠ .str tag) : TagDefect fields "must be a string"
  | unknown {tag : String} (found : fields.get? "action" = some (.str tag))
      (strange : tag ∉ tags) : TagDefect fields ("has unknown kind \"" ++ tag ++ "\"")

def Tagged (fields : Fields) (tag : String) : Prop :=
  fields.get? "action" = some (.str tag) ∧ tag ∈ tags

mutual

/-- The first defect of a value that is no trigger. -/
inductive TriggerDefect : Json → Fault → Prop where
  | shape {value : Json} (noObject : ∀ fields, value ≠ .obj fields)
      (noArray : ∀ items, value ≠ .arr items) :
      TriggerDefect value
        (.malformed "action trigger" "<root>" "must be an object or an array")
  | single {fields : Fields} {fault : Fault} (defect : DescriptorDefect (.obj fields) fault) :
      TriggerDefect (.obj fields) fault
  | item {before after : List Json} {item : Json} {fault : Fault}
      (earlier : ∀ other ∈ before, IsDescriptor other) (defect : DescriptorDefect item fault) :
      TriggerDefect (.arr (before ++ item :: after)) fault

/-- The first defect of a value that is no descriptor: its shape, its tag, the continuation for
success, the one for failure, its payload. -/
inductive DescriptorDefect : Json → Fault → Prop where
  | shape {value : Json} (noObject : ∀ fields, value ≠ .obj fields) :
      DescriptorDefect value (.malformed "action" "<root>" "must be an object")
  | tag {fields : Fields} {reason : String} (defect : TagDefect fields reason) :
      DescriptorDefect (.obj fields) (.malformed "action" "action" reason)
  | onSuccess {fields : Fields} {tag : String} {value : Json} {fault : Fault}
      (tagged : Tagged fields tag) (found : fields.get? "onSuccess" = some value)
      (defect : TriggerDefect value fault) : DescriptorDefect (.obj fields) fault
  | onError {fields : Fields} {tag : String} {value : Json} {fault : Fault}
      (tagged : Tagged fields tag)
      (onSuccess : ∀ value, fields.get? "onSuccess" = some value → IsTrigger value)
      (found : fields.get? "onError" = some value) (defect : TriggerDefect value fault) :
      DescriptorDefect (.obj fields) fault
  | payload {fields : Fields} {tag : String} {defect : Defect} (tagged : Tagged fields tag)
      (onSuccess : ∀ value, fields.get? "onSuccess" = some value → IsTrigger value)
      (onError : ∀ value, fields.get? "onError" = some value → IsTrigger value)
      (wrong : PayloadDefect (payloadRules tag) fields defect) :
      DescriptorDefect (.obj fields) (defectFault tag defect)

end

/-! ### Tags -/

theorem readTag_eq_ok_iff {fields : Fields} {tag : String} :
    readTag fields = .ok tag ↔ Tagged fields tag := by
  unfold readTag Tagged
  split
  · rename_i found stored
    split
    · rename_i known
      simp only [Except.ok.injEq, stored, Option.some.injEq, Json.str.injEq]
      constructor
      · rintro rfl
        exact ⟨rfl, known⟩
      · exact And.left
    · rename_i strange
      simp only [reduceCtorEq, stored, Option.some.injEq, Json.str.injEq, false_iff, not_and]
      rintro rfl
      exact strange
  · rename_i value noText stored
    simp only [reduceCtorEq, stored, Option.some.injEq, false_iff, not_and]
    intro isText
    exact (noText tag isText).elim
  · rename_i absent
    simp [absent]

theorem readTag_of_defect {fields : Fields} {reason : String} (defect : TagDefect fields reason) :
    readTag fields = .error (complaint "action" reason) := by
  cases defect with
  | missing absent => simp [readTag, absent]
  | mistyped found noText =>
      rename_i value
      cases value with
      | str tag => exact (noText tag rfl).elim
      | _ => simp [readTag, found]
  | unknown found strange => simp [readTag, found, strange]

theorem tagDefect_of_readTag {fields : Fields} {fault : Fault}
    (refused : readTag fields = .error fault) :
    ∃ reason, TagDefect fields reason ∧ fault = complaint "action" reason := by
  unfold readTag at refused
  split at refused
  · rename_i tag stored
    split at refused
    · cases refused
    · rename_i strange
      cases refused
      exact ⟨_, .unknown stored strange, rfl⟩
  · rename_i value noText stored
    cases refused
    refine ⟨_, .mistyped stored ?_, rfl⟩
    rintro tag rfl
    exact noText tag rfl
  · rename_i absent
    cases refused
    exact ⟨_, .missing absent, rfl⟩

/-! ### Reading -/

/-- A reader accepts what is valid and reports the first defect of all else. -/
structure Decides {α : Type} (valid : Prop) (defect : Fault → Prop)
    (result : Except Fault α) : Prop where
  accepts : (∃ tree, result = .ok tree) ↔ valid
  reports : ∀ fault, result = .error fault ↔ defect fault

namespace Decides

variable {α β : Type} {valid : Prop} {defect : Fault → Prop} {result : Except Fault α}

/-- It is enough that what is valid is accepted, that what has a defect is refused with it, and
that one of the two is the case. -/
theorem of_total (total : valid ∨ ∃ fault, defect fault)
    (accepts : valid → ∃ tree, result = .ok tree)
    (reports : ∀ fault, defect fault → result = .error fault) :
    Decides valid defect result := by
  refine ⟨⟨?_, accepts⟩, fun fault => ⟨?_, reports fault⟩⟩
  · rintro ⟨tree, read⟩
    rcases total with holds | ⟨fault, wrong⟩
    · exact holds
    · have refused := reports fault wrong
      rw [read] at refused
      cases refused
  · intro refused
    rcases total with holds | ⟨other, wrong⟩
    · rcases accepts holds with ⟨tree, read⟩
      rw [read] at refused
      cases refused
    · have same := reports other wrong
      rw [refused, Except.error.injEq] at same
      exact same ▸ wrong

theorem total (decides : Decides valid defect result) : valid ∨ ∃ fault, defect fault := by
  cases read : result with
  | ok tree => exact Or.inl (decides.accepts.1 ⟨tree, read⟩)
  | error fault => exact Or.inr ⟨fault, (decides.reports fault).1 read⟩

theorem map (decides : Decides valid defect result) (f : α → β) :
    Decides valid defect (result.map f) := by
  apply of_total decides.total
  · intro holds
    rcases decides.accepts.2 holds with ⟨tree, read⟩
    exact ⟨f tree, by rw [read]; rfl⟩
  · intro fault wrong
    rw [(decides.reports fault).2 wrong]
    rfl

theorem congr {valid' : Prop} {defect' : Fault → Prop} (decides : Decides valid defect result)
    (sameValid : valid ↔ valid') (sameDefect : ∀ fault, defect fault ↔ defect' fault) :
    Decides valid' defect' result :=
  ⟨decides.accepts.trans sameValid, fun fault => (decides.reports fault).trans (sameDefect fault)⟩

end Decides

/-- The field is left out or holds a trigger. -/
def Continues (fields : Fields) (field : String) : Prop :=
  ∀ value, fields.get? field = some value → IsTrigger value

def ContinuationDefect (fields : Fields) (field : String) (fault : Fault) : Prop :=
  ∃ value, fields.get? field = some value ∧ TriggerDefect value fault

def ItemDefect (items : List Json) (fault : Fault) : Prop :=
  ∃ before item after, items = before ++ item :: after ∧
    (∀ other ∈ before, IsDescriptor other) ∧ DescriptorDefect item fault

section Parts

variable {fields : Fields} {onSuccess onError : Except Fault (Option Trigger)}

theorem ofParts_of_valid
    (success : Decides (Continues fields "onSuccess") (ContinuationDefect fields "onSuccess")
      onSuccess)
    (failure : Decides (Continues fields "onError") (ContinuationDefect fields "onError")
      onError)
    (descriptor : IsDescriptor (.obj fields)) :
    ∃ tree, Descriptor.ofParts fields onSuccess onError = .ok tree := by
  cases descriptor with
  | object tagged known payload successes failures =>
      rcases success.accepts.2 successes with ⟨next, readSuccess⟩
      rcases failure.accepts.2 failures with ⟨handler, readFailure⟩
      rcases readPayload_eq_ok_iff.2 payload with ⟨action, read⟩
      refine ⟨.mk action next handler, ?_⟩
      simp [Descriptor.ofParts, readTag_eq_ok_iff.2 ⟨tagged, known⟩, readSuccess, readFailure,
        ofFields, read, bind, Except.bind, Except.mapError, pure, Except.pure]

theorem ofParts_of_defect
    (success : Decides (Continues fields "onSuccess") (ContinuationDefect fields "onSuccess")
      onSuccess)
    (failure : Decides (Continues fields "onError") (ContinuationDefect fields "onError")
      onError)
    {fault : Fault} (defect : DescriptorDefect (.obj fields) fault) :
    Descriptor.ofParts fields onSuccess onError = .error fault := by
  cases defect with
  | shape noObject => exact (noObject fields rfl).elim
  | tag wrong => simp [Descriptor.ofParts, readTag_of_defect wrong, complaint, bind, Except.bind]
  | onSuccess tagged found wrong =>
      have refused := (success.reports fault).2 ⟨_, found, wrong⟩
      simp [Descriptor.ofParts, readTag_eq_ok_iff.2 tagged, refused, bind, Except.bind]
  | onError tagged successes found wrong =>
      rcases success.accepts.2 successes with ⟨next, read⟩
      have refused := (failure.reports fault).2 ⟨_, found, wrong⟩
      simp [Descriptor.ofParts, readTag_eq_ok_iff.2 tagged, read, refused, bind, Except.bind]
  | payload tagged successes failures wrong =>
      rcases success.accepts.2 successes with ⟨next, readSuccess⟩
      rcases failure.accepts.2 failures with ⟨handler, readFailure⟩
      have refused := readPayload_eq_error_iff.2 wrong
      simp [Descriptor.ofParts, readTag_eq_ok_iff.2 tagged, readSuccess, readFailure, ofFields,
        refused, bind, Except.bind, Except.mapError]

/-- An object is a descriptor if its tag, its continuations and its payload are in order. The
stages are gone through as the reader does, and the first that is not in order is reported. -/
theorem decides_ofParts
    (success : Decides (Continues fields "onSuccess") (ContinuationDefect fields "onSuccess")
      onSuccess)
    (failure : Decides (Continues fields "onError") (ContinuationDefect fields "onError")
      onError) :
    Decides (IsDescriptor (.obj fields)) (DescriptorDefect (.obj fields))
      (Descriptor.ofParts fields onSuccess onError) := by
  apply Decides.of_total
  · cases read : readTag fields with
    | error fault =>
        rcases tagDefect_of_readTag read with ⟨reason, wrong, rfl⟩
        exact Or.inr ⟨_, .tag wrong⟩
    | ok tag =>
        have tagged := readTag_eq_ok_iff.1 read
        rcases success.total with successes | ⟨fault, value, found, wrong⟩
        · rcases failure.total with failures | ⟨fault, value, found, wrong⟩
          · cases payload : readPayload tag fields with
            | ok action =>
                have accepted := readPayload_eq_ok_iff.1 ⟨action, payload⟩
                exact Or.inl (.object tagged.1 tagged.2 accepted successes failures)
            | error defect =>
                have refused := readPayload_eq_error_iff.1 payload
                exact Or.inr ⟨_, .payload tagged successes failures refused⟩
          · exact Or.inr ⟨fault, .onError tagged successes found wrong⟩
        · exact Or.inr ⟨fault, .onSuccess tagged found wrong⟩
  · exact ofParts_of_valid success failure
  · exact fun fault => ofParts_of_defect success failure

end Parts

/-! ### Trees -/

theorem isTrigger_obj {fields : Fields} :
    IsDescriptor (.obj fields) ↔ IsTrigger (.obj fields) := by
  constructor
  · exact .single
  · rintro ⟨descriptor⟩
    exact descriptor

theorem triggerDefect_obj {fields : Fields} (fault : Fault) :
    DescriptorDefect (.obj fields) fault ↔ TriggerDefect (.obj fields) fault := by
  constructor
  · exact .single
  · intro wrong
    cases wrong with
    | shape noObject noArray => exact (noObject fields rfl).elim
    | single defect => exact defect

theorem isTrigger_arr {items : List Json} :
    (∀ item ∈ items, IsDescriptor item) ↔ IsTrigger (.arr items) := by
  constructor
  · exact .chain
  · intro trigger
    cases trigger with
    | chain descriptors => exact descriptors

theorem triggerDefect_arr {items : List Json} (fault : Fault) :
    ItemDefect items fault ↔ TriggerDefect (.arr items) fault := by
  constructor
  · rintro ⟨before, item, after, rfl, earlier, defect⟩
    exact .item earlier defect
  · intro wrong
    cases wrong with
    | shape noObject noArray => exact (noArray items rfl).elim
    | item earlier defect => exact ⟨_, _, _, rfl, earlier, defect⟩

theorem decides_of_shape {value : Json} (noObject : ∀ fields, value ≠ .obj fields)
    (noArray : ∀ items, value ≠ .arr items) :
    Decides (IsTrigger value) (TriggerDefect value)
      (.error (.malformed "action trigger" "<root>" "must be an object or an array") :
        Except Fault Trigger) := by
  apply Decides.of_total
  · exact Or.inr ⟨_, .shape noObject noArray⟩
  · intro trigger
    cases trigger with
    | single descriptor => exact (noObject _ rfl).elim
    | chain descriptors => exact (noArray _ rfl).elim
  · intro fault wrong
    cases wrong with
    | shape => rfl
    | single defect => exact (noObject _ rfl).elim
    | item earlier defect => exact (noArray _ rfl).elim

theorem decides_of_no_object {value : Json} (noObject : ∀ fields, value ≠ .obj fields) :
    Decides (IsDescriptor value) (DescriptorDefect value)
      (.error (complaint "<root>" "must be an object") : Except Fault Descriptor) := by
  apply Decides.of_total
  · exact Or.inr ⟨_, .shape noObject⟩
  · intro descriptor
    cases descriptor with
    | object => exact (noObject _ rfl).elim
  · intro fault wrong
    cases wrong with
    | shape => rfl
    | _ => exact (noObject _ rfl).elim

theorem decides_cons {item : Json} {rest : List Json}
    (first : Decides (IsDescriptor item) (DescriptorDefect item) (Descriptor.ofJson item))
    (later : Decides (∀ item ∈ rest, IsDescriptor item) (ItemDefect rest)
      (Descriptor.ofItems rest)) :
    Decides (∀ other ∈ item :: rest, IsDescriptor other) (ItemDefect (item :: rest))
      (Descriptor.ofItems (item :: rest)) := by
  apply Decides.of_total
  · rcases first.total with descriptor | ⟨fault, wrong⟩
    · rcases later.total with descriptors | ⟨fault, before, other, after, split, earlier, wrong⟩
      · exact Or.inl (List.forall_mem_cons.2 ⟨descriptor, descriptors⟩)
      · refine Or.inr ⟨fault, item :: before, other, after, by rw [split]; rfl, ?_, wrong⟩
        exact List.forall_mem_cons.2 ⟨descriptor, earlier⟩
    · exact Or.inr ⟨fault, [], item, rest, rfl, by simp, wrong⟩
  · intro descriptors
    rcases List.forall_mem_cons.1 descriptors with ⟨head, tail⟩
    rcases first.accepts.2 head with ⟨descriptor, read⟩
    rcases later.accepts.2 tail with ⟨others, readRest⟩
    refine ⟨descriptor :: others, ?_⟩
    simp [Descriptor.ofItems, read, readRest, bind, Except.bind, pure, Except.pure]
  · rintro fault ⟨before, other, after, split, earlier, wrong⟩
    cases before with
    | nil =>
        cases split
        have refused := (first.reports fault).2 wrong
        simp [Descriptor.ofItems, refused, bind, Except.bind]
    | cons head tail =>
        simp only [List.cons_append, List.cons.injEq] at split
        rcases split with ⟨rfl, rfl⟩
        rcases List.forall_mem_cons.1 earlier with ⟨isFirst, others⟩
        rcases first.accepts.2 isFirst with ⟨descriptor, read⟩
        have refused := (later.reports fault).2 ⟨tail, other, after, rfl, others, wrong⟩
        simp [Descriptor.ofItems, read, refused, bind, Except.bind]

mutual

theorem decides_trigger : ∀ value : Json,
    Decides (IsTrigger value) (TriggerDefect value) (Trigger.ofJson value)
  | .arr items => by
      rw [Trigger.ofJson]
      exact ((decides_items items).map Trigger.chain).congr isTrigger_arr triggerDefect_arr
  | .obj fields => by
      rw [Trigger.ofJson]
      have parts := decides_ofParts (decides_field "onSuccess" fields)
        (decides_field "onError" fields)
      exact (parts.map Trigger.single).congr isTrigger_obj triggerDefect_obj
  | .null | .bool _ | .int _ | .float _ | .str _ => decides_of_shape nofun nofun
termination_by structural value => value

theorem decides_items : ∀ items : List Json,
    Decides (∀ item ∈ items, IsDescriptor item) (ItemDefect items) (Descriptor.ofItems items)
  | [] => by
      apply Decides.of_total
      · exact Or.inl nofun
      · exact fun _ => ⟨[], rfl⟩
      · rintro fault ⟨before, item, after, split, -⟩
        simp at split
  | item :: rest => decides_cons (decides_descriptor item) (decides_items rest)
termination_by structural items => items

theorem decides_descriptor : ∀ value : Json,
    Decides (IsDescriptor value) (DescriptorDefect value) (Descriptor.ofJson value)
  | .obj fields => by
      rw [Descriptor.ofJson]
      exact decides_ofParts (decides_field "onSuccess" fields) (decides_field "onError" fields)
  | .null | .bool _ | .int _ | .float _ | .str _ | .arr _ => decides_of_no_object nofun
termination_by structural value => value

theorem decides_field (field : String) : ∀ fields : List (String × Json),
    Decides (Continues fields field) (ContinuationDefect fields field)
      (Trigger.ofField field fields)
  | [] => by
      apply Decides.of_total
      · exact Or.inl nofun
      · exact fun _ => ⟨none, rfl⟩
      · rintro fault ⟨value, found, -⟩
        cases found
  | (key, value) :: rest => by
      rw [Trigger.ofField]
      by_cases same : key = field
      · rw [if_pos same]
        apply ((decides_trigger value).map some).congr
        · simp [Continues, Table.get?_cons, same]
        · simp [ContinuationDefect, Table.get?_cons, same]
      · rw [if_neg same]
        apply (decides_field field rest).congr
        · simp [Continues, Table.get?_cons, same]
        · simp [ContinuationDefect, Table.get?_cons, same]
termination_by structural fields => fields

end

end Action

namespace Engine

open Storyboard.Action

/-- What is promised of a value that is read as a trigger. -/
structure Reads (value : Json) : Prop where
  /-- It is accepted if and only if it follows the grammar. -/
  accepts : (∃ trigger, Trigger.ofJson value = .ok trigger) ↔ IsTrigger value
  /-- Otherwise its first defect is reported. -/
  reports : ∀ fault, Trigger.ofJson value = .error fault ↔ TriggerDefect value fault
  /-- An engine that is to run it then returns the report and sends it, and does nothing else. -/
  rejects : ∀ fault, TriggerDefect value fault → ∀ runSteps fields engine,
    dispatch runSteps value fields engine =
      (.error fault,
        { engine with sent := .diagnostic .error fault.message :: engine.sent })

/-- Reading a trigger is all or nothing. -/
theorem ofJson_reads (value : Json) : Reads value := by
  have decides := decides_trigger value
  refine ⟨decides.accepts, decides.reports, ?_⟩
  intro fault wrong runSteps fields engine
  have refused := (decides.reports fault).2 wrong
  simp only [dispatch, refused, send]

end Engine

end Storyboard
