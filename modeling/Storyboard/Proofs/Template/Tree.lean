import Storyboard.Proofs.Json.Tree
import Storyboard.Proofs.Template.Settled
/-!
# Resolving trees

Resolution replaces the strings of a tree and leaves its shape alone. What a tree resolves to
depends on the values of the references in it and on nothing else, and a tree without a
reference that has a value stays as it is.

Main results: `resolveTree_congr` and `resolveTree_of_settled`.
-/

namespace Storyboard

/-- No reference stands for `null`. -/
theorem Scopes.lookup_ne_null (scopes : Scopes) (reference : Reference) :
    scopes.lookup reference ≠ some .null := by
  intro found
  have kept := (Option.filter_eq_some_iff.1 found).2
  simp [Json.isNull] at kept

theorem Scopes.lookup_empty (reference : Reference) : Scopes.lookup {} reference = none := by
  simp [lookup, entry?]

namespace Template

variable {template : String} {left right scopes : Scopes}

theorem resolveToken_congr {token : Token}
    (agree : ∀ reference, token = .placeholder reference →
      left.lookup reference = right.lookup reference) :
    token.resolve left = token.resolve right := by
  cases token with
  | literal text => rfl
  | placeholder reference => simp only [Token.resolve, agree reference rfl]

theorem resolve_congr
    (agree : ∀ reference ∈ references template, left.lookup reference = right.lookup reference) :
    resolve template left = resolve template right := by
  unfold resolve
  congr 1
  apply List.map_congr_left
  intro token member
  apply resolveToken_congr
  rintro reference rfl
  exact agree reference (mem_references_iff_mem_tokens.2 member)

theorem eq_text_of_tokens {reference : Reference}
    (alone : tokens template = [.placeholder reference]) :
    reference.WellFormed ∧ template = reference.text := by
  have splits : Splits template (tokens template) := splits_iff.2 rfl
  refine ⟨splits.references reference (by simp [alone]), ?_⟩
  have joins := splits.joins
  rw [alone] at joins
  simpa [Token.text] using joins.symm

/-- A template that is one reference with a value stands for that value, any other for its
text. -/
theorem resolveValue_cases (template : String) (scopes : Scopes) :
    (∃ reference, reference.WellFormed ∧ template = reference.text ∧
      scopes.lookup reference = some (resolveValue template scopes) ∧
      resolve template scopes = (resolveValue template scopes).inlineText) ∨
      resolveValue template scopes = .str (resolve template scopes) := by
  unfold resolveValue
  split
  · rename_i reference alone
    cases found : scopes.lookup reference with
    | none => exact Or.inr rfl
    | some value =>
        obtain ⟨wellFormed, isText⟩ := eq_text_of_tokens alone
        refine Or.inl ⟨reference, wellFormed, isText, found, ?_⟩
        simp [resolve, alone, Token.resolve, found]
  · exact Or.inr rfl

theorem resolveValue_text {reference : Reference} {value : Json}
    (wellFormed : reference.WellFormed) (found : scopes.lookup reference = some value) :
    resolveValue reference.text scopes = value := by
  simp only [resolveValue, tokens_text wellFormed, found]

theorem resolveValue_ne_null (template : String) (scopes : Scopes) :
    resolveValue template scopes ≠ .null := by
  intro isNull
  rcases resolveValue_cases template scopes with ⟨reference, -, -, found, -⟩ | isText
  · rw [isNull] at found
    exact Scopes.lookup_ne_null scopes reference found
  · rw [isNull] at isText
    cases isText

theorem resolveValue_congr
    (agree : ∀ reference ∈ references template, left.lookup reference = right.lookup reference) :
    resolveValue template left = resolveValue template right := by
  unfold resolveValue
  rw [resolve_congr agree]
  split
  · rename_i reference alone
    rw [agree reference (mem_references_iff_mem_tokens.2 (by simp [alone]))]
  · rfl

theorem resolveValue_of_settled (settled : Settled scopes template) :
    resolveValue template scopes = .str template := by
  rcases resolveValue_cases template scopes with ⟨reference, wellFormed, rfl, found, -⟩ | isText
  · have missing := settled reference (by simp [references_text wellFormed])
    rw [found] at missing
    cases missing
  · rw [isText, resolve_of_settled settled]

end Template

namespace Json

variable {keep : Bool} {scopes left right : Scopes} {value child part : Json}

@[simp]
theorem resolveItems_eq (keep : Bool) (scopes : Scopes) (items : List Json) :
    resolveItems keep scopes items = items.map (resolveTree keep scopes) := by
  induction items with
  | nil => rfl
  | cons item rest ih => rw [resolveItems, ih, List.map_cons]

@[simp]
theorem resolveFields_eq (keep : Bool) (scopes : Scopes) (fields : Fields) :
    resolveFields keep scopes fields =
      fields.map fun field => (field.1, field.2.resolveTree keep scopes) := by
  induction fields with
  | nil => rfl
  | cons field rest ih => rw [resolveFields, ih, List.map_cons]

theorem keys_resolveFields (fields : Fields) :
    Table.keys (resolveFields keep scopes fields) = fields.keys := by
  simp [Table.keys, Function.comp_def]

theorem get?_resolveFields (fields : Fields) (key : String) :
    Table.get? (resolveFields keep scopes fields) key =
      (fields.get? key).map (resolveTree keep scopes) := by
  induction fields with
  | nil => rfl
  | cons field rest ih =>
      rw [resolveFields, Table.get?_cons, Table.get?_cons, ih]
      split
      · rfl
      · rfl

theorem resolveTree_of_isAction (action : value.isAction = true) :
    value.resolveTree true scopes = value := by
  cases value with
  | obj fields =>
      rw [isAction] at action
      simp [resolveTree, action]
  | _ => cases action

theorem resolveTree_obj {fields : Fields} (enters : keep = true → isAction (.obj fields) = false) :
    resolveTree keep scopes (.obj fields) = .obj (resolveFields keep scopes fields) := by
  cases keep with
  | false => simp [resolveTree]
  | true =>
      have plain := enters rfl
      rw [isAction] at plain
      simp [resolveTree, plain]

theorem resolveTree_ne_null (present : value ≠ .null) :
    value.resolveTree keep scopes ≠ .null := by
  cases value with
  | null => exact present
  | str text => exact Template.resolveValue_ne_null text scopes
  | obj fields =>
      unfold resolveTree
      split
      · exact nofun
      · exact nofun
  | _ => exact nofun

/-! ### What a tree depends on -/

/-- A reference is in a string of the tree. With `outside`, in one that no action has inside. -/
def Mentions (outside : Bool) (tree : Json) (reference : Reference) : Prop :=
  ∃ text, tree.HasPart outside (.str text) ∧ reference ∈ Template.references text

theorem resolveTree_congr
    (agree : ∀ reference, value.Mentions keep reference →
      left.lookup reference = right.lookup reference) :
    value.resolveTree keep left = value.resolveTree keep right := by
  induction value using Json.induction with
  | str text =>
      apply Template.resolveValue_congr
      intro reference member
      exact agree reference ⟨text, .self _, member⟩
  | arr items ih =>
      simp only [resolveTree, resolveItems_eq, arr.injEq]
      apply List.map_congr_left
      intro item member
      apply ih item member
      rintro reference ⟨text, isPart, mentioned⟩
      exact agree reference ⟨text, .item member isPart, mentioned⟩
  | obj fields ih =>
      by_cases enters : keep = true → isAction (.obj fields) = false
      · rw [resolveTree_obj enters, resolveTree_obj enters, resolveFields_eq, resolveFields_eq,
          obj.injEq]
        apply List.map_congr_left
        rintro ⟨key, stored⟩ member
        rw [ih key stored member]
        rintro reference ⟨text, isPart, mentioned⟩
        exact agree reference ⟨text, .value enters member isPart, mentioned⟩
      · rw [Classical.not_imp, Bool.not_eq_false] at enters
        obtain ⟨rfl, action⟩ := enters
        rw [resolveTree_of_isAction action, resolveTree_of_isAction action]
  | _ => rfl

/-- Without any data, nothing is replaced. -/
theorem resolveTree_empty (keep : Bool) (value : Json) : value.resolveTree keep {} = value := by
  induction value using Json.induction with
  | str text =>
      apply Template.resolveValue_of_settled
      intro reference _
      exact Scopes.lookup_empty reference
  | arr items ih =>
      simp only [resolveTree, resolveItems_eq, arr.injEq]
      rw [List.map_congr_left ih, List.map_id']
  | obj fields ih =>
      by_cases enters : keep = true → isAction (.obj fields) = false
      · rw [resolveTree_obj enters, resolveFields_eq, obj.injEq]
        have same : ∀ field ∈ fields, (field.1, field.2.resolveTree keep {}) = field := by
          rintro ⟨key, stored⟩ member
          rw [ih key stored member]
        rw [List.map_congr_left same, List.map_id']
      · rw [Classical.not_imp, Bool.not_eq_false] at enters
        obtain ⟨rfl, action⟩ := enters
        exact resolveTree_of_isAction action
  | _ => rfl

/-- No reference of the tree has a value. -/
def Settled (outside : Bool) (scopes : Scopes) (tree : Json) : Prop :=
  ∀ reference, tree.Mentions outside reference → scopes.lookup reference = none

theorem resolveTree_of_settled (settled : value.Settled keep scopes) :
    value.resolveTree keep scopes = value := by
  have agree : ∀ reference, value.Mentions keep reference →
      scopes.lookup reference = Scopes.lookup {} reference := by
    intro reference mentioned
    rw [settled reference mentioned, Scopes.lookup_empty]
  rw [resolveTree_congr agree, resolveTree_empty]

end Json

end Storyboard
