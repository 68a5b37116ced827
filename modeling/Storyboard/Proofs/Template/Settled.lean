import Storyboard.Proofs.Template.Grammar
import Storyboard.Template.Resolve
/-!
# Resolving twice

A text is settled when none of its references has a value; a second resolution leaves it as it
is. Resolution puts texts side by side, so a reference of the result is a reference of one of
them or stands across a seam. The values of a template may all be settled and the result not: a
dollar sign of the template and a brace of a value are a reference that is in neither.

Main results: `settled_resolve_iff` and `resolve_resolve`.
-/

namespace Storyboard

def Token.reference? : Token → Option Reference
  | literal _ => none
  | placeholder reference => some reference

namespace Template

variable {reference : Reference} {template text : String} {scopes : Scopes}

/-! ### References in a text -/

def references (template : String) : List Reference :=
  (tokens template).filterMap Token.reference?

theorem mem_references_iff_mem_tokens :
    reference ∈ references template ↔ .placeholder reference ∈ tokens template := by
  rw [references, List.mem_filterMap]
  constructor
  · rintro ⟨token, member, isReference⟩
    cases token with
    | literal text => cases isReference
    | placeholder other =>
        cases isReference
        exact member
  · intro member
    exact ⟨.placeholder reference, member, rfl⟩

theorem map_snd_placed (start : Nat) (parts : List Token) :
    (placed start parts).map Prod.snd = parts.filterMap Token.reference? := by
  induction parts generalizing start with
  | nil => rfl
  | cons token rest ih =>
      cases token with
      | literal text => exact ih _
      | placeholder reference => exact congrArg (reference :: ·) (ih _)

/-- The references of a text are the well-formed ones that are written in it. -/
theorem mem_references_iff :
    reference ∈ references template ↔
      reference.WellFormed ∧ reference.chars <:+: template.toList := by
  rw [references, ← map_snd_placed 0, List.mem_map]
  constructor
  · rintro ⟨⟨offset, other⟩, member, rfl⟩
    obtain ⟨wellFormed, starts⟩ := mem_placed_iff.1 member
    exact ⟨wellFormed, starts.isInfix.trans (List.drop_suffix _ _).isInfix⟩
  · rintro ⟨wellFormed, before, after, isText⟩
    refine ⟨(before.length, reference), mem_placed_iff.2 ⟨wellFormed, ?_⟩, rfl⟩
    rw [← isText, List.append_assoc, List.drop_left]
    exact List.prefix_append _ _

theorem tokens_text (wellFormed : reference.WellFormed) :
    tokens reference.text = [.placeholder reference] := by
  have cut : Cut (reference.chars ++ []) [.placeholder reference] := .placeholder wellFormed .nil
  rw [List.append_nil] at cut
  rw [tokens, Reference.text, String.toList_ofList, cut.tokensFrom_eq]

theorem references_text (wellFormed : reference.WellFormed) :
    references reference.text = [reference] := by
  rw [references, tokens_text wellFormed]
  rfl

/-! ### Settled texts -/

/-- No reference of the text has a value. -/
def Settled (scopes : Scopes) (text : String) : Prop :=
  ∀ reference ∈ references text, scopes.lookup reference = none

instance : Decidable (Settled scopes text) :=
  inferInstanceAs (Decidable (∀ reference ∈ references text, scopes.lookup reference = none))

theorem resolve_of_settled (settled : Settled scopes text) : resolve text scopes = text := by
  have unchanged : ∀ token ∈ tokens text, token.resolve scopes = token.text := by
    intro token member
    cases token with
    | literal text => rfl
    | placeholder reference =>
        have missing := settled reference (mem_references_iff_mem_tokens.2 member)
        simp only [Token.resolve, missing, Token.text]
  rw [resolve, List.map_congr_left unchanged]
  exact (splits_iff.2 rfl).joins

/-- The values that take the place of the template's references are settled. -/
def ValuesSettled (scopes : Scopes) (template : String) : Prop :=
  ∀ reference ∈ references template, ∀ value ∈ scopes.lookup reference,
    Settled scopes value.inlineText

instance : Decidable (ValuesSettled scopes template) :=
  inferInstanceAs (Decidable (∀ reference ∈ references template,
    ∀ value ∈ scopes.lookup reference, Settled scopes value.inlineText))

theorem valuesSettled_iff :
    ValuesSettled scopes template ↔
      ∀ token ∈ tokens template, Settled scopes (token.resolve scopes) := by
  have splits : Splits template (tokens template) := splits_iff.2 rfl
  constructor
  · intro values token member
    cases token with
    | literal text =>
        intro reference isReference
        obtain ⟨wellFormed, isInfix⟩ := mem_references_iff.1 isReference
        exact (splits.plain text member reference wellFormed isInfix).elim
    | placeholder reference =>
        have settled := values reference (mem_references_iff_mem_tokens.2 member)
        cases found : scopes.lookup reference with
        | none =>
            simp only [Token.resolve, found, Settled,
              references_text (splits.references reference member), List.mem_singleton]
            rintro other rfl
            exact found
        | some value =>
            simp only [Token.resolve, found]
            exact settled value found
  · intro settled reference member value found
    have here := settled _ (mem_references_iff_mem_tokens.1 member)
    simp only [Token.resolve, Option.mem_def.1 found] at here
    exact here

/-! ### Seams -/

/-- The pattern begins in the parts before a seam and ends in the parts behind it. -/
def Straddles (pattern : List Char) (parts : List (List Char)) : Prop :=
  ∃ before after first last, before ++ after = parts ∧ first ++ last = pattern ∧
    first ≠ [] ∧ last ≠ [] ∧ first <:+ before.flatten ∧ last <+: after.flatten

theorem infix_flatten_iff {pattern : List Char} {parts : List (List Char)}
    (nonempty : pattern ≠ []) :
    pattern <:+: parts.flatten ↔
      (∃ part ∈ parts, pattern <:+: part) ∨ Straddles pattern parts := by
  constructor
  · intro isInfix
    induction parts with
    | nil => exact (nonempty (List.infix_nil.1 isInfix)).elim
    | cons part rest ih =>
        rw [List.flatten_cons, List.infix_append_iff_ne_nil] at isInfix
        rcases isInfix with inPart | inRest | ⟨first, last, starts, ends, rfl, inPart, inRest⟩
        · exact Or.inl ⟨part, List.mem_cons_self, inPart⟩
        · rcases ih inRest with ⟨other, member, inOther⟩ |
            ⟨before, after, first, last, rfl, joined, starts, ends, inBefore, inAfter⟩
          · exact Or.inl ⟨other, List.mem_cons_of_mem _ member, inOther⟩
          · refine Or.inr ⟨part :: before, after, first, last, rfl, joined, starts, ends, ?_,
              inAfter⟩
            exact inBefore.trans (List.suffix_append _ _)
        · refine Or.inr ⟨[part], rest, first, last, rfl, rfl, starts, ends, ?_, inRest⟩
          simpa using inPart
  · rintro (⟨part, member, inPart⟩ |
      ⟨before, after, first, last, rfl, rfl, starts, ends, inBefore, inAfter⟩)
    · exact inPart.trans (List.infix_of_mem_flatten member)
    · rw [List.flatten_append, List.infix_append_iff]
      exact Or.inr (Or.inr ⟨first, last, rfl, inBefore, inAfter⟩)

/-- The texts that a resolution puts side by side. -/
def resolvedParts (scopes : Scopes) (template : String) : List (List Char) :=
  (tokens template).map fun token => (token.resolve scopes).toList

theorem toList_resolve :
    (resolve template scopes).toList = (resolvedParts scopes template).flatten := by
  rw [resolve, String.toList_join, List.flatMap_map, List.flatMap_def, resolvedParts]

/-- No reference with a value stands across a seam of the resolved template. -/
def SeamsSettled (scopes : Scopes) (template : String) : Prop :=
  ∀ reference : Reference, reference.WellFormed →
    Straddles reference.chars (resolvedParts scopes template) → scopes.lookup reference = none

theorem mem_references_resolve_iff :
    reference ∈ references (resolve template scopes) ↔
      (∃ token ∈ tokens template, reference ∈ references (token.resolve scopes)) ∨
        reference.WellFormed ∧ Straddles reference.chars (resolvedParts scopes template) := by
  have nonempty : reference.chars ≠ [] := List.length_pos_iff.1 reference.length_chars_pos
  simp only [mem_references_iff, toList_resolve, infix_flatten_iff nonempty, resolvedParts,
    List.mem_map, exists_exists_and_eq_and]
  constructor
  · rintro ⟨wellFormed, ⟨token, member, inPart⟩ | straddles⟩
    · exact Or.inl ⟨token, member, wellFormed, inPart⟩
    · exact Or.inr ⟨wellFormed, straddles⟩
  · rintro (⟨token, member, wellFormed, inPart⟩ | ⟨wellFormed, straddles⟩)
    · exact ⟨wellFormed, Or.inl ⟨token, member, inPart⟩⟩
    · exact ⟨wellFormed, Or.inr straddles⟩

/-- The result of a resolution is settled if its values and its seams are. -/
theorem settled_resolve_iff :
    Settled scopes (resolve template scopes) ↔
      ValuesSettled scopes template ∧ SeamsSettled scopes template := by
  rw [valuesSettled_iff]
  constructor
  · intro settled
    constructor
    · intro token member reference inPart
      exact settled reference (mem_references_resolve_iff.2 (Or.inl ⟨token, member, inPart⟩))
    · intro reference wellFormed straddles
      exact settled reference (mem_references_resolve_iff.2 (Or.inr ⟨wellFormed, straddles⟩))
  · rintro ⟨parts, seams⟩ reference isReference
    rcases mem_references_resolve_iff.1 isReference with
      ⟨token, member, inPart⟩ | ⟨wellFormed, straddles⟩
    · exact parts token member reference inPart
    · exact seams reference wellFormed straddles

/-- Where the values are settled, a second resolution meets a reference with a value only at a
seam, and changes nothing if there is none. -/
theorem resolve_resolve (values : ValuesSettled scopes template) :
    (Settled scopes (resolve template scopes) ↔ SeamsSettled scopes template) ∧
      (SeamsSettled scopes template →
        resolve (resolve template scopes) scopes = resolve template scopes) := by
  constructor
  · rw [settled_resolve_iff]
    exact and_iff_right values
  · intro seams
    exact resolve_of_settled (settled_resolve_iff.2 ⟨values, seams⟩)

/-- A dollar sign before a reference and a brace behind it. -/
theorem resolve_resolve_of_greeting :
    let scopes : Scopes := { session := some [("name", .str "ann")] }
    let template := "$$\x7bnavigationData.name\x7d\x7d"
    ValuesSettled scopes template ∧ SeamsSettled scopes template ∧
      resolve (resolve template scopes) scopes = resolve template scopes := by
  intro scopes template
  have values : ValuesSettled scopes template := by decide +kernel
  have seams : SeamsSettled scopes template := (resolve_resolve values).1.1 (by decide +kernel)
  exact ⟨values, seams, (resolve_resolve values).2 seams⟩

/-- The value is a reference but for its dollar sign, which the template has in front of it. -/
theorem resolve_resolve_ne_of_seam :
    let scopes : Scopes :=
      { session := some [("a", .str "\x7bnavigationData.b\x7d"), ("b", .str "x")] }
    let template := "$$\x7bnavigationData.a\x7d"
    ValuesSettled scopes template ∧
      resolve (resolve template scopes) scopes ≠ resolve template scopes := by
  decide +kernel

end Template

end Storyboard
