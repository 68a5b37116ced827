import Mathlib.Data.List.Nodup
import Mathlib.Tactic.SplitIfs
import Storyboard.Action.Reader
/-!
# What payloads hold

The fields of each kind of action, with the values that they may hold and whether they may be
left out. A payload is read if and only if every field obeys its rule. Otherwise the report is on
the mistyped field with the least key, or, if no field is mistyped, on the first missing one in
the order of declaration.

Main results: `readPayload_eq_ok_iff` and `readPayload_eq_error_iff`.
-/

namespace Storyboard

namespace Action

open Payload

/-- What a field may hold. -/
inductive Shape where
  | text
  | table
  | flag
  | count
  | method
  | any
deriving DecidableEq

/-- Whether a field may be left out, and whether `null` is as good as leaving it out. -/
inductive Need where
  | required
  | optional
  | defaulted
deriving DecidableEq

structure FieldRule where
  field : String
  shape : Shape
  need : Need
deriving DecidableEq

def Shape.Holds : Shape → Json → Prop
  | text, .str _ => True
  | table, .obj _ => True
  | flag, .bool _ => True
  | count, .int value => 0 ≤ value
  | method, .str name => ∃ method : Http.Method, name.toUpper = method.name
  | any, _ => True
  | _, _ => False

def Shape.name : Shape → String
  | text | method => "a string"
  | table => "a map"
  | flag => "a boolean"
  | count => "usize"
  | any => "any value"

/-- The report on a value that a field may not hold: it is of another type, or out of range. -/
def Shape.complaint (shape : Shape) (value : Json) : Defect :=
  match shape, value with
  | count, .int number =>
    .refused ("invalid value: " ++ describe (.int number) ++ ", expected usize")
  | method, .str name => .refused (Http.Method.unsupported name)
  | _, _ => mismatch value shape.name

/-- The fields of a payload in the order of their declaration. -/
def payloadRules (tag : String) : List FieldRule :=
  if tag = "navigate" then [⟨"screen", .text, .required⟩]
  else if tag = "navigateToFlow" then
    [⟨"targetFlow", .text, .required⟩, ⟨"targetScreen", .text, .required⟩,
      ⟨"data", .table, .optional⟩]
  else if tag = "setState" then [⟨"updates", .table, .required⟩]
  else if tag = "apiCall" then
    [⟨"method", .method, .required⟩, ⟨"endpoint", .text, .required⟩,
      ⟨"headers", .table, .optional⟩, ⟨"body", .any, .optional⟩]
  else if tag = "custom" then
    [⟨"handler", .text, .required⟩, ⟨"parameters", .table, .optional⟩]
  else if tag = "goBack" then
    [⟨"steps", .count, .defaulted⟩, ⟨"clearData", .flag, .defaulted⟩]
  else [⟨"callbackName", .text, .required⟩, ⟨"params", .table, .optional⟩]

namespace FieldRule

def Admits (rule : FieldRule) (value : Json) : Prop :=
  rule.shape.Holds value ∨ rule.need = .optional ∧ value = .null

def Mistyped (rule : FieldRule) (fields : Fields) : Prop :=
  ∃ value, fields.get? rule.field = some value ∧ ¬rule.Admits value

def Missing (rule : FieldRule) (fields : Fields) : Prop :=
  rule.need = .required ∧ fields.get? rule.field = none

/-- The field is there unless it may be left out, and it holds what it may hold. -/
def Accepts (rule : FieldRule) (fields : Fields) : Prop :=
  match fields.get? rule.field with
  | none => rule.need ≠ .required
  | some value => rule.Admits value

theorem accepts_iff {rule : FieldRule} {fields : Fields} :
    rule.Accepts fields ↔ ¬rule.Mistyped fields ∧ ¬rule.Missing fields := by
  unfold Accepts Mistyped Missing
  cases found : fields.get? rule.field with
  | none => simp
  | some value => simp

end FieldRule

/-- The defect of a payload that is reported. -/
inductive PayloadDefect (rules : List FieldRule) (fields : Fields) : Defect → Prop where
  | mistyped {rule : FieldRule} {value : Json} (among : rule ∈ rules)
      (found : fields.get? rule.field = some value) (refused : ¬rule.Admits value)
      (least : ∀ other ∈ rules, other.field < rule.field → ¬other.Mistyped fields) :
      PayloadDefect rules fields (rule.shape.complaint value)
  | missing {before after : List FieldRule} {rule : FieldRule}
      (declared : rules = before ++ rule :: after)
      (typed : ∀ other ∈ rules, ¬other.Mistyped fields)
      (earlier : ∀ other ∈ before, ¬other.Missing fields) (lacks : rule.Missing fields) :
      PayloadDefect rules fields (.missing rule.field)

theorem payloadRules_nodup (tag : String) :
    ((payloadRules tag).map FieldRule.field).Nodup := by
  unfold payloadRules
  repeat' split
  all_goals decide

/-! ### Values -/

/-- A reader reads the values of a shape and reports all others. -/
def Fits {α : Type} (shape : Shape) (reader : Json → Except Defect α) : Prop :=
  ∀ value, shape.Holds value ∧ (∃ result, reader value = .ok result) ∨
    ¬shape.Holds value ∧ reader value = .error (shape.complaint value)

theorem fits_text : Fits .text text := by
  intro value
  cases value with
  | str name => exact Or.inl ⟨trivial, name, rfl⟩
  | _ => exact Or.inr ⟨id, rfl⟩

theorem fits_table : Fits .table table := by
  intro value
  cases value with
  | obj fields => exact Or.inl ⟨trivial, fields, rfl⟩
  | _ => exact Or.inr ⟨id, rfl⟩

theorem fits_flag : Fits .flag flag := by
  intro value
  cases value with
  | bool state => exact Or.inl ⟨trivial, state, rfl⟩
  | _ => exact Or.inr ⟨id, rfl⟩

theorem fits_any : Fits .any any := by
  intro value
  exact Or.inl ⟨by cases value <;> trivial, value, rfl⟩

theorem fits_count : Fits .count count := by
  intro value
  cases value with
  | int number =>
      by_cases natural : 0 ≤ number
      · exact Or.inl ⟨natural, number.toNat, by simp [count, natural]⟩
      · exact Or.inr ⟨natural, by simp [count, natural, Shape.complaint]⟩
  | _ => exact Or.inr ⟨id, by simp only [count, Shape.complaint, Shape.name]⟩

theorem ofName?_isSome_iff {name : String} :
    (Http.Method.ofName? name).isSome ↔ ∃ method : Http.Method, name.toUpper = method.name := by
  constructor
  · intro known
    unfold Http.Method.ofName? at known
    grind [Http.Method.name]
  · rintro ⟨method, same⟩
    unfold Http.Method.ofName?
    cases method <;> simp [same, Http.Method.name]

theorem fits_method : Fits .method method := by
  intro value
  cases value with
  | str name =>
      cases found : Http.Method.ofName? name with
      | some known =>
          refine Or.inl ⟨ofName?_isSome_iff.1 (by simp [found]), known, ?_⟩
          simp [method, found]
      | none =>
          refine Or.inr ⟨fun known => ?_, ?_⟩
          · simpa [found] using ofName?_isSome_iff.2 known
          · simp only [method, found, Shape.complaint]
  | _ => exact Or.inr ⟨id, rfl⟩

/-! ### Fields -/

/-- How the rest of a payload comes out. The fields of `pending` are still to be read, in this
order, and those of `declared` are then asked for. -/
inductive Settles {α : Type} (fields : Fields) :
    List FieldRule → List FieldRule → Except Defect α → Prop where
  | mistyped {before after declared : List FieldRule} {rule : FieldRule} {value : Json}
      (earlier : ∀ other ∈ before, ¬other.Mistyped fields)
      (found : fields.get? rule.field = some value) (refused : ¬rule.Admits value) :
      Settles fields (before ++ rule :: after) declared
        (.error (rule.shape.complaint value))
  | missing {pending before after : List FieldRule} {rule : FieldRule}
      (typed : ∀ other ∈ pending, ¬other.Mistyped fields)
      (earlier : ∀ other ∈ before, ¬other.Missing fields) (lacks : rule.Missing fields) :
      Settles fields pending (before ++ rule :: after) (.error (.missing rule.field))
  | complete {pending declared : List FieldRule}
      (typed : ∀ other ∈ pending, ¬other.Mistyped fields)
      (present : ∀ other ∈ declared, ¬other.Missing fields) (result : α) :
      Settles fields pending declared (.ok result)

namespace Settles

variable {α β : Type} {fields : Fields} {pending declared : List FieldRule} {rule : FieldRule}
  {result : Except Defect β} {reader : Json → Except Defect α}

theorem typed (typed : ¬rule.Mistyped fields) (settles : Settles fields pending declared result) :
    Settles fields (rule :: pending) declared result := by
  cases settles with
  | @mistyped before after _ other value earlier found refused =>
      refine @Settles.mistyped _ _ (rule :: before) _ _ _ _ ?_ found refused
      simpa [typed] using earlier
  | missing others earlier lacks =>
      apply Settles.missing _ earlier lacks
      simpa [typed] using others
  | complete others present value =>
      apply Settles.complete _ present value
      simpa [typed] using others

theorem present (present : ¬rule.Missing fields)
    (settles : Settles fields [] declared result) :
    Settles fields [] (rule :: declared) result := by
  generalize none_pending : ([] : List FieldRule) = pending at settles ⊢
  cases settles with
  | mistyped earlier found refused => simp at none_pending
  | @missing _ before after other typed earlier lacks =>
      refine @Settles.missing _ _ _ (rule :: before) _ _ typed ?_ lacks
      simpa [present] using earlier
  | complete typed others value =>
      apply Settles.complete typed _ value
      simpa [present] using others

theorem read (fits : Fits rule.shape reader) (need : rule.need ≠ .optional)
    {next : Option α → Except Defect β}
    (goesOn : ∀ found, (found = none ↔ fields.get? rule.field = none) →
      Settles fields pending declared (next found)) :
    Settles fields (rule :: pending) declared (read reader fields rule.field >>= next) := by
  cases stored : fields.get? rule.field with
  | none =>
      have absent : Payload.read reader fields rule.field = .ok none := by
        simp [Payload.read, stored]
      rw [absent]
      apply Settles.typed
      · simp [FieldRule.Mistyped, stored]
      · exact goesOn none (by simp [stored])
  | some value =>
      rcases fits value with ⟨holds, found, reads⟩ | ⟨fails, reports⟩
      · have held : Payload.read reader fields rule.field = .ok (some found) := by
          simp [Payload.read, stored, reads, Except.map]
        rw [held]
        apply Settles.typed
        · simp [FieldRule.Mistyped, stored, FieldRule.Admits, holds]
        · exact goesOn (some found) (by simp [stored])
      · have refused : Payload.read reader fields rule.field =
            .error (rule.shape.complaint value) := by
          simp [Payload.read, stored, reports, Except.map]
        rw [refused]
        refine @Settles.mistyped _ _ [] _ _ _ _ (by simp) stored ?_
        simp [FieldRule.Admits, fails, need]

theorem readOptional (fits : Fits rule.shape reader) (need : rule.need = .optional)
    {next : Option α → Except Defect β}
    (goesOn : ∀ found, Settles fields pending declared (next found)) :
    Settles fields (rule :: pending) declared
      (readOptional reader fields rule.field >>= next) := by
  by_cases absent : fields.get? rule.field = none ∨ fields.get? rule.field = some .null
  · have none : Payload.readOptional reader fields rule.field = .ok none := by
      rcases absent with stored | stored <;> simp [Payload.readOptional, stored]
    rw [none]
    apply Settles.typed _ (goesOn _)
    rcases absent with stored | stored <;>
      simp [FieldRule.Mistyped, stored, FieldRule.Admits, need]
  · simp only [not_or] at absent
    cases stored : fields.get? rule.field with
    | none => exact (absent.1 stored).elim
    | some value =>
        have notNull : value ≠ .null := by
          rintro rfl
          exact absent.2 stored
        have reads : Payload.readOptional reader fields rule.field =
            (reader value).map some := by
          cases value <;> simp_all [Payload.readOptional]
        rw [reads]
        rcases fits value with ⟨holds, found, reads⟩ | ⟨fails, reports⟩
        · rw [reads]
          apply Settles.typed _ (goesOn (some found))
          simp [FieldRule.Mistyped, stored, FieldRule.Admits, holds]
        · rw [reports]
          refine @Settles.mistyped _ _ [] _ _ _ _ (by simp) stored ?_
          simp [FieldRule.Admits, fails, notNull]

theorem require (need : rule.need = .required) {found : Option α}
    (read : found = none ↔ fields.get? rule.field = none) {next : α → Except Defect β}
    (goesOn : ∀ value, Settles fields [] declared (next value)) :
    Settles fields [] (rule :: declared) (require rule.field found >>= next) := by
  cases found with
  | none =>
      refine @Settles.missing _ _ _ [] _ _ (by simp) (by simp) ?_
      exact ⟨need, read.1 rfl⟩
  | some value =>
      apply Settles.present _ (goesOn value)
      intro missing
      cases read.2 missing.2

theorem skip (need : rule.need ≠ .required) (settles : Settles fields [] declared result) :
    Settles fields [] (rule :: declared) result :=
  settles.present fun missing => need missing.1

theorem finish (result : β) : Settles fields [] [] (.ok result) :=
  .complete (by simp) (by simp) result

end Settles

/-! ### Kinds of actions -/

section Kinds

variable (fields : Fields)

theorem readNavigate_settles :
    Settles fields [⟨"screen", .text, .required⟩] [⟨"screen", .text, .required⟩]
      (readNavigate fields) := by
  apply Settles.read fits_text (by decide)
  intro screen read
  apply Settles.require rfl read
  intro screen
  exact .finish _

theorem readNavigateToFlow_settles :
    Settles fields
      [⟨"data", .table, .optional⟩, ⟨"targetFlow", .text, .required⟩,
        ⟨"targetScreen", .text, .required⟩]
      [⟨"targetFlow", .text, .required⟩, ⟨"targetScreen", .text, .required⟩,
        ⟨"data", .table, .optional⟩]
      (readNavigateToFlow fields) := by
  apply Settles.readOptional fits_table rfl
  intro data
  apply Settles.read fits_text (by decide)
  intro flow readFlow
  apply Settles.read fits_text (by decide)
  intro screen readScreen
  apply Settles.require rfl readFlow
  intro flow
  apply Settles.require rfl readScreen
  intro screen
  exact .skip (by decide) (.finish _)

theorem readSetState_settles :
    Settles fields [⟨"updates", .table, .required⟩] [⟨"updates", .table, .required⟩]
      (readSetState fields) := by
  apply Settles.read fits_table (by decide)
  intro updates read
  apply Settles.require rfl read
  intro updates
  exact .finish _

theorem readApiCall_settles :
    Settles fields
      [⟨"body", .any, .optional⟩, ⟨"endpoint", .text, .required⟩,
        ⟨"headers", .table, .optional⟩, ⟨"method", .method, .required⟩]
      [⟨"method", .method, .required⟩, ⟨"endpoint", .text, .required⟩,
        ⟨"headers", .table, .optional⟩, ⟨"body", .any, .optional⟩]
      (readApiCall fields) := by
  apply Settles.readOptional fits_any rfl
  intro body
  apply Settles.read fits_text (by decide)
  intro endpoint readEndpoint
  apply Settles.readOptional fits_table rfl
  intro headers
  apply Settles.read fits_method (by decide)
  intro method readMethod
  apply Settles.require rfl readMethod
  intro method
  apply Settles.require rfl readEndpoint
  intro endpoint
  exact .skip (by decide) (.skip (by decide) (.finish _))

theorem readCustom_settles :
    Settles fields
      [⟨"handler", .text, .required⟩, ⟨"parameters", .table, .optional⟩]
      [⟨"handler", .text, .required⟩, ⟨"parameters", .table, .optional⟩]
      (readCustom fields) := by
  apply Settles.read fits_text (by decide)
  intro handler read
  apply Settles.readOptional fits_table rfl
  intro parameters
  apply Settles.require rfl read
  intro handler
  exact .skip (by decide) (.finish _)

theorem readGoBack_settles :
    Settles fields
      [⟨"clearData", .flag, .defaulted⟩, ⟨"steps", .count, .defaulted⟩]
      [⟨"steps", .count, .defaulted⟩, ⟨"clearData", .flag, .defaulted⟩]
      (readGoBack fields) := by
  apply Settles.read fits_flag (by decide)
  intro clearData _
  apply Settles.read fits_count (by decide)
  intro steps _
  exact .skip (by decide) (.skip (by decide) (.finish _))

theorem readExecuteCallback_settles :
    Settles fields
      [⟨"callbackName", .text, .required⟩, ⟨"params", .table, .optional⟩]
      [⟨"callbackName", .text, .required⟩, ⟨"params", .table, .optional⟩]
      (readExecuteCallback fields) := by
  apply Settles.read fits_text (by decide)
  intro name read
  apply Settles.readOptional fits_table rfl
  intro params
  apply Settles.require rfl read
  intro name
  exact .skip (by decide) (.finish _)

end Kinds

/-- Every payload is read in the order of its keys, and only then are missing fields noticed. -/
theorem readPayload_settles (tag : String) (fields : Fields) :
    ∃ pending : List FieldRule, pending.Pairwise (fun first later => first.field < later.field) ∧
      pending.Perm (payloadRules tag) ∧
      Settles fields pending (payloadRules tag) (readPayload tag fields) := by
  unfold payloadRules readPayload
  split_ifs
  · exact ⟨_, by decide, by decide, readNavigate_settles fields⟩
  · exact ⟨_, by decide, by decide, readNavigateToFlow_settles fields⟩
  · exact ⟨_, by decide, by decide, readSetState_settles fields⟩
  · exact ⟨_, by decide, by decide, readApiCall_settles fields⟩
  · exact ⟨_, by decide, by decide, readCustom_settles fields⟩
  · exact ⟨_, by decide, by decide, readGoBack_settles fields⟩
  · exact ⟨_, by decide, by decide, readExecuteCallback_settles fields⟩

section Results

variable {tag : String} {fields : Fields} {rules pending : List FieldRule}

theorem Settles.defect {α : Type} {defect : Defect}
    (settles : Settles fields pending rules (.error defect : Except Defect α))
    (sorted : pending.Pairwise fun first later => first.field < later.field)
    (same : pending.Perm rules) : PayloadDefect rules fields defect := by
  cases settles with
  | @mistyped before after _ rule value earlier found refused =>
      refine .mistyped (same.mem_iff.1 (by simp)) found refused ?_
      intro other among less mistyped
      have listed : other ∈ before ++ rule :: after := same.mem_iff.2 among
      rw [List.mem_append, List.mem_cons] at listed
      rcases listed with isEarlier | rfl | isLater
      · exact earlier other isEarlier mistyped
      · exact String.lt_irrefl _ less
      · have rest := (List.pairwise_append.1 sorted).2.1
        exact String.lt_asymm less (List.rel_of_pairwise_cons rest isLater)
  | missing typed earlier lacks =>
      refine .missing rfl ?_ earlier lacks
      intro other among
      exact typed other (same.mem_iff.2 among)

theorem Settles.accepts {α : Type} {result : α}
    (settles : Settles fields pending rules (.ok result)) (same : pending.Perm rules) :
    ∀ rule ∈ rules, rule.Accepts fields := by
  cases settles with
  | complete typed present =>
      intro rule among
      exact FieldRule.accepts_iff.2 ⟨typed rule (same.mem_iff.2 among), present rule among⟩

/-- A payload that obeys its rules has no defect. -/
theorem PayloadDefect.not_accepts {defect : Defect} (wrong : PayloadDefect rules fields defect) :
    ¬∀ rule ∈ rules, rule.Accepts fields := by
  intro accepts
  cases wrong with
  | mistyped among found refused least =>
      exact (FieldRule.accepts_iff.1 (accepts _ among)).1 ⟨_, found, refused⟩
  | missing declared typed earlier lacks =>
      have among := accepts _ (declared ▸ List.mem_append_right _ List.mem_cons_self)
      exact (FieldRule.accepts_iff.1 among).2 lacks

/-- Of the defects of a payload one is reported. -/
theorem PayloadDefect.unique {defect other : Defect}
    (distinct : (rules.map FieldRule.field).Nodup) (first : PayloadDefect rules fields defect)
    (second : PayloadDefect rules fields other) : defect = other := by
  cases first with
  | @mistyped rule value among found refused least =>
      cases second with
      | @mistyped rule' value' among' found' refused' least' =>
          have sameField : rule.field = rule'.field := by
            apply String.le_antisymm
            · exact String.not_lt.1 fun less => least _ among' less ⟨_, found', refused'⟩
            · exact String.not_lt.1 fun less => least' _ among less ⟨_, found, refused⟩
          have sameRule := List.inj_on_of_nodup_map distinct among among' sameField
          subst sameRule
          rw [found, Option.some.injEq] at found'
          rw [found']
      | missing _ typed _ _ => exact (typed rule among ⟨value, found, refused⟩).elim
  | @missing before after rule declared typed earlier lacks =>
      cases second with
      | mistyped among found refused _ => exact (typed _ among ⟨_, found, refused⟩).elim
      | @missing before' after' rule' declared' typed' earlier' lacks' =>
          rcases List.append_eq_append_iff.1 (declared.symm.trans declared') with
            ⟨between, split, rest⟩ | ⟨between, split, rest⟩
          · cases between with
            | nil =>
                cases rest
                rfl
            | cons head tail =>
                cases rest
                exact (earlier' rule (by simp [split]) lacks).elim
          · cases between with
            | nil =>
                cases rest
                rfl
            | cons head tail =>
                cases rest
                exact (earlier rule' (by simp [split]) lacks').elim

theorem readPayload_eq_ok_iff :
    (∃ action, readPayload tag fields = .ok action) ↔
      ∀ rule ∈ payloadRules tag, rule.Accepts fields := by
  rcases readPayload_settles tag fields with ⟨pending, sorted, same, settles⟩
  constructor
  · rintro ⟨action, read⟩
    rw [read] at settles
    exact settles.accepts same
  · intro accepts
    cases read : readPayload tag fields with
    | ok action => exact ⟨action, rfl⟩
    | error defect =>
        rw [read] at settles
        exact ((settles.defect sorted same).not_accepts accepts).elim

theorem readPayload_eq_error_iff {defect : Defect} :
    readPayload tag fields = .error defect ↔
      PayloadDefect (payloadRules tag) fields defect := by
  rcases readPayload_settles tag fields with ⟨pending, sorted, same, settles⟩
  constructor
  · intro read
    rw [read] at settles
    exact settles.defect sorted same
  · intro wrong
    cases read : readPayload tag fields with
    | ok action => exact (wrong.not_accepts (readPayload_eq_ok_iff.1 ⟨action, read⟩)).elim
    | error other =>
        rw [read] at settles
        rw [(settles.defect sorted same).unique (payloadRules_nodup tag) wrong]

end Results

end Action

end Storyboard
