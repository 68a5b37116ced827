import Mathlib.Data.List.Chain
import Storyboard.Proofs.Template.Reference
/-!
# The grammar of templates

A template splits into references and the text between them in one way only. `Splits` says what
a split is without a word on how it is found; `Cut` says the same token by token and is what the
inductions run on.

Main results: `splits_iff`, and `mem_placed_iff` on where the references of a template stand.
-/

namespace Storyboard

/-- Whether a token is text. -/
def Token.isLiteral : Token → Bool
  | literal _ => true
  | placeholder _ => false

namespace Template

/-- A text with no reference in it. -/
def Plain (text : List Char) : Prop :=
  ∀ reference : Reference, reference.WellFormed → ¬reference.chars <:+: text

/-- The tokens are the references of a template and the text between them. -/
structure Splits (template : String) (parts : List Token) : Prop where
  joins : String.join (parts.map Token.text) = template
  references : ∀ reference, .placeholder reference ∈ parts → reference.WellFormed
  nonempty : ∀ text, .literal text ∈ parts → text ≠ ""
  apart : parts.IsChain fun token next => ¬(token.isLiteral = true ∧ next.isLiteral = true)
  plain : ∀ text, .literal text ∈ parts → Plain text.toList

inductive Cut : List Char → List Token → Prop where
  | nil : Cut [] []
  | placeholder {reference : Reference} {rest : List Char} {parts : List Token}
      (wellFormed : reference.WellFormed) (goesOn : Cut rest parts) :
      Cut (reference.chars ++ rest) (.placeholder reference :: parts)
  | literal {text rest : List Char} {parts : List Token} (nonempty : text ≠ [])
      (plain : Plain text) (apart : ∀ token ∈ parts.head?, token.isLiteral = false)
      (goesOn : Cut rest parts) : Cut (text ++ rest) (.literal (String.ofList text) :: parts)

variable {reference : Reference} {text rest pending : List Char} {parts : List Token}
  {template : String}

/-! ### The two forms -/

theorem Splits.cut (splits : Splits template parts) : Cut template.toList parts := by
  induction parts generalizing template with
  | nil =>
      rw [← splits.joins]
      exact .nil
  | cons token rest ih =>
      obtain ⟨joins, references, nonempty, apart, plain⟩ := splits
      rw [List.isChain_cons] at apart
      have following : Cut (String.join (rest.map Token.text)).toList rest := by
        apply ih
        exact ⟨rfl, fun reference member => references reference (List.mem_cons_of_mem _ member),
          fun text member => nonempty text (List.mem_cons_of_mem _ member), apart.2,
          fun text member => plain text (List.mem_cons_of_mem _ member)⟩
      rw [← joins, List.map_cons, String.join_cons, String.toList_append]
      cases token with
      | literal text =>
          have isSome : text.toList ≠ [] := by
            intro empty
            exact nonempty text List.mem_cons_self (String.toList_eq_nil_iff.1 empty)
          have parted : ∀ next ∈ rest.head?, next.isLiteral = false := by
            intro next isNext
            simpa [Token.isLiteral] using apart.1 next isNext
          have cut := Cut.literal isSome (plain text List.mem_cons_self) parted following
          rwa [String.ofList_toList] at cut
      | placeholder reference =>
          have chars : (Token.placeholder reference).text.toList = reference.chars :=
            String.toList_ofList
          rw [chars]
          exact .placeholder (references reference List.mem_cons_self) following

theorem Cut.splits (cut : Cut text parts) : Splits (String.ofList text) parts := by
  induction cut with
  | nil => exact ⟨rfl, nofun, nofun, .nil, nofun⟩
  | @placeholder reference rest parts wellFormed _ ih =>
      obtain ⟨joins, references, nonempty, apart, plain⟩ := ih
      refine ⟨?_, ?_, ?_, ?_, ?_⟩
      · rw [List.map_cons, String.join_cons, joins, String.ofList_append]
        rfl
      · intro other member
        rcases List.mem_cons.1 member with same | later
        · cases same
          exact wellFormed
        · exact references other later
      · intro text member
        exact nonempty text ((List.mem_cons.1 member).resolve_left nofun)
      · exact apart.cons fun _ _ both => Bool.false_ne_true both.1
      · intro text member
        exact plain text ((List.mem_cons.1 member).resolve_left nofun)
  | @literal chars rest parts isSome isPlain parted _ ih =>
      obtain ⟨joins, references, nonempty, apart, plain⟩ := ih
      refine ⟨?_, ?_, ?_, ?_, ?_⟩
      · rw [List.map_cons, String.join_cons, joins, String.ofList_append]
        rfl
      · intro reference member
        exact references reference ((List.mem_cons.1 member).resolve_left nofun)
      · intro text member
        rcases List.mem_cons.1 member with same | later
        · cases same
          simpa using isSome
        · exact nonempty text later
      · refine apart.cons fun next isNext both => ?_
        rw [parted next isNext] at both
        exact Bool.false_ne_true both.2
      · intro text member
        rcases List.mem_cons.1 member with same | later
        · cases same
          rw [String.toList_ofList]
          exact isPlain
        · exact plain text later

/-! ### The tokens are a split -/

/-- No reference starts among the pending characters. -/
def Quiet (pending rest : List Char) : Prop :=
  ∀ behind, behind ≠ [] → behind <:+ pending.reverse → Reference.read? (behind ++ rest) = none

theorem Quiet.nil (rest : List Char) : Quiet [] rest :=
  fun _ nonempty ends => (nonempty (List.suffix_nil.1 ends)).elim

theorem Quiet.cons {c : Char} (quiet : Quiet pending (c :: rest))
    (reads : Reference.read? (c :: rest) = none) : Quiet (c :: pending) rest := by
  intro behind nonempty ends
  rw [List.reverse_cons] at ends
  rcases List.suffix_concat_iff.1 ends with empty | ⟨before, rfl, earlier⟩
  · exact (nonempty empty).elim
  · rw [List.append_assoc, List.singleton_append]
    by_cases first : before = []
    · rw [first]
      exact reads
    · exact quiet before first earlier

theorem Quiet.plain (quiet : Quiet pending rest) : Plain pending.reverse := by
  rintro reference wellFormed ⟨before, after, whole⟩
  have silent := quiet (reference.chars ++ after) ?_ ⟨before, by rw [← whole, List.append_assoc]⟩
  · rw [List.append_assoc, Reference.read?_append wellFormed] at silent
    cases silent
  · intro empty
    have length := reference.length_chars_pos
    rw [(List.append_eq_nil_iff.1 empty).1] at length
    cases length

/-- Pending characters become a literal in front of what is no literal. -/
theorem Cut.ofPending (plain : Plain pending.reverse) (cut : Cut rest parts)
    (apart : ∀ token ∈ parts.head?, token.isLiteral = false) :
    Cut (pending.reverse ++ rest) (Token.ofPending pending ++ parts) := by
  cases pending with
  | nil => exact cut
  | cons c earlier => exact .literal (by simp) plain apart cut

theorem cut_tokensFrom (covered : Nat) (quiet : Quiet pending (text.drop covered)) :
    Cut (pending.reverse ++ text.drop covered) (tokensFrom pending covered text) := by
  fun_induction tokensFrom pending covered text with
  | case1 pending covered =>
      rw [List.drop_nil] at quiet ⊢
      simpa using Cut.ofPending quiet.plain .nil nofun
  | case2 pending c rest covered ih => exact ih quiet
  | case3 pending c rest reference reads ih =>
      obtain ⟨wellFormed, after, whole⟩ := Reference.read?_eq_some_iff.1 reads
      have following : rest.drop (reference.chars.length - 1) = after := by
        have length := reference.length_chars_pos
        rw [← List.drop_succ_cons (a := c), Nat.sub_add_cancel length, ← whole, List.drop_left]
      rw [following] at ih
      rw [List.drop_zero, ← whole]
      exact .ofPending quiet.plain (.placeholder wellFormed (ih (.nil after)))
        (by simp [Token.isLiteral])
  | case4 pending c rest reads ih =>
      have goesOn := ih (quiet.cons reads)
      rw [List.reverse_cons, List.append_assoc] at goesOn
      exact goesOn

theorem cut_tokens (template : String) : Cut template.toList (tokens template) :=
  cut_tokensFrom 0 (.nil template.toList)

/-! ### There is no other -/

theorem ofPending_reverse (nonempty : text ≠ []) :
    Token.ofPending text.reverse = [.literal (String.ofList text)] := by
  unfold Token.ofPending
  split
  · rename_i empty
    exact (nonempty (List.reverse_eq_nil_iff.1 empty)).elim
  · rw [List.reverse_reverse]

theorem tokensFrom_covered (pending : List Char) (covered : Nat) (text : List Char) :
    tokensFrom pending covered text = tokensFrom pending 0 (text.drop covered) := by
  induction text generalizing covered with
  | nil => rw [List.drop_nil, tokensFrom, tokensFrom]
  | cons c rest ih =>
      cases covered with
      | zero => rfl
      | succ covered =>
          rw [tokensFrom, ih]
          rfl

theorem tokensFrom_reference (wellFormed : reference.WellFormed) (pending rest : List Char) :
    tokensFrom pending 0 (reference.chars ++ rest) =
      Token.ofPending pending ++ .placeholder reference :: tokensFrom [] 0 rest := by
  have reads := Reference.read?_append wellFormed rest
  have length := reference.length_chars_pos
  cases whole : reference.chars with
  | nil =>
      rw [whole] at length
      cases length
  | cons c others =>
      rw [whole, List.cons_append] at reads
      rw [List.cons_append, tokensFrom, reads]
      simp only [whole]
      rw [tokensFrom_covered, List.length_cons, Nat.add_sub_cancel, List.drop_left]

/-- Characters at which no reference starts are put with those that wait. -/
theorem tokensFrom_quiet (quiet : Quiet text.reverse rest) (pending : List Char) :
    tokensFrom pending 0 (text ++ rest) = tokensFrom (text.reverse ++ pending) 0 rest := by
  induction text generalizing pending with
  | nil => rfl
  | cons c others ih =>
      have silent : Reference.read? (c :: (others ++ rest)) = none := by
        apply quiet (c :: others) (List.cons_ne_nil _ _)
        simp only [List.reverse_reverse, List.suffix_rfl]
      have later : Quiet others.reverse rest := by
        intro behind nonempty ends
        apply quiet behind nonempty
        rw [List.reverse_reverse] at ends ⊢
        exact ends.trans (List.suffix_cons c others)
      rw [List.cons_append, tokensFrom, silent]
      simp only
      rw [ih later, List.reverse_cons, List.append_assoc]
      rfl

/-- After a literal the text ends, or a reference starts. -/
theorem Cut.cases_of_apart (cut : Cut rest parts)
    (apart : ∀ token ∈ parts.head?, token.isLiteral = false) :
    rest = [] ∨ ∃ after, rest = '$' :: after := by
  cases cut with
  | nil => exact Or.inl rfl
  | placeholder wellFormed goesOn => exact Or.inr ⟨_, rfl⟩
  | literal nonempty plain _ goesOn => cases apart _ rfl

/-- No reference starts in a plain text that ends there or before a dollar sign. -/
theorem Plain.not_prefix (plain : Plain text) (ends : rest = [] ∨ ∃ after, rest = '$' :: after)
    {behind : List Char} (nonempty : behind ≠ []) (isSuffix : behind <:+ text)
    (wellFormed : reference.WellFormed) : ¬reference.chars <+: behind ++ rest := by
  intro starts
  apply plain reference wellFormed
  apply List.IsInfix.trans _ isSuffix.isInfix
  apply List.IsPrefix.isInfix
  rcases ends with rfl | ⟨after, rfl⟩
  · rwa [List.append_nil] at starts
  · exact Reference.prefix_of_prefix_append wellFormed nonempty starts

theorem Plain.quiet (plain : Plain text) (ends : rest = [] ∨ ∃ after, rest = '$' :: after) :
    Quiet text.reverse rest := by
  intro behind nonempty isSuffix
  rw [List.reverse_reverse] at isSuffix
  cases reads : Reference.read? (behind ++ rest) with
  | none => rfl
  | some reference =>
      obtain ⟨wellFormed, starts⟩ := Reference.read?_eq_some_iff.1 reads
      exact (plain.not_prefix ends nonempty isSuffix wellFormed starts).elim

theorem Cut.tokensFrom_eq (cut : Cut text parts) : tokensFrom [] 0 text = parts := by
  induction cut with
  | nil => rfl
  | placeholder wellFormed _ ih =>
      rw [tokensFrom_reference wellFormed, ih]
      rfl
  | @literal text rest parts nonempty plain apart goesOn ih =>
      rw [tokensFrom_quiet (plain.quiet (goesOn.cases_of_apart apart)), List.append_nil]
      cases goesOn with
      | nil => rw [tokensFrom, ofPending_reverse nonempty]
      | placeholder wellFormed goesOn =>
          rw [tokensFrom_reference wellFormed] at ih ⊢
          rw [ofPending_reverse nonempty, ← ih]
          rfl
      | literal _ _ _ goesOn => cases apart _ rfl

/-- The tokens of a template are its only split. -/
theorem splits_iff : Splits template parts ↔ parts = tokens template := by
  constructor
  · intro splits
    exact splits.cut.tokensFrom_eq.symm
  · rintro rfl
    have splits := (cut_tokens template).splits
    rwa [String.ofList_toList] at splits

/-! ### Where the references stand -/

/-- The references of tokens, each with the number of characters before it. -/
def placed (start : Nat) : List Token → List (Nat × Reference)
  | [] => []
  | .literal text :: rest => placed (start + text.length) rest
  | .placeholder reference :: rest =>
    (start, reference) :: placed (start + reference.chars.length) rest

theorem le_of_mem_placed {start : Nat} {place : Nat × Reference}
    (member : place ∈ placed start parts) : start ≤ place.1 := by
  induction parts generalizing start with
  | nil => cases member
  | cons token rest ih =>
      cases token with
      | literal text => exact Nat.le_trans (Nat.le_add_right _ _) (ih member)
      | placeholder reference =>
          rcases List.mem_cons.1 member with rfl | later
          · exact Nat.le_refl start
          · exact Nat.le_trans (Nat.le_add_right _ _) (ih later)

/-- References do not overlap. -/
theorem pairwise_placed (start : Nat) (parts : List Token) :
    (placed start parts).Pairwise fun place next => place.1 + place.2.chars.length ≤ next.1 := by
  induction parts generalizing start with
  | nil => exact .nil
  | cons token rest ih =>
      cases token with
      | literal text => exact ih _
      | placeholder reference => exact .cons (fun next member => le_of_mem_placed member) (ih _)

/-- Past its dollar sign, no reference starts in a reference. -/
theorem not_prefix_drop {offset : Nat} (wellFormed : reference.WellFormed) (behind : 0 < offset)
    (inside : offset < reference.chars.length) (other : Reference) :
    ¬other.chars <+: (reference.chars ++ rest).drop offset := by
  rw [List.drop_append_of_le_length (Nat.le_of_lt inside),
    List.drop_eq_getElem_cons inside, List.cons_append, Reference.chars,
    List.cons_prefix_cons]
  rintro ⟨dollar, -⟩
  apply wellFormed.dollar_not_mem
  rw [dollar, List.mem_iff_getElem]
  refine ⟨offset - 1, ?_, ?_⟩
  · rw [List.length_tail]
    omega
  · simp only [List.getElem_tail, Nat.sub_add_cancel behind]

theorem Cut.mem_placed_iff (cut : Cut text parts) (start offset : Nat) :
    (start + offset, reference) ∈ placed start parts ↔
      reference.WellFormed ∧ reference.chars <+: text.drop offset := by
  induction cut generalizing start offset with
  | nil =>
      have length := reference.length_chars_pos
      have nonempty : reference.chars ≠ [] := List.length_pos_iff.1 length
      simp [placed, nonempty]
  | @placeholder first rest parts wellFormed _ ih =>
      have later := ih (start + first.chars.length)
      by_cases inside : offset < first.chars.length
      · have apart : (start + offset, reference) ∉
            placed (start + first.chars.length) parts := by
          intro member
          have after := le_of_mem_placed member
          simp only at after
          omega
        rw [placed, List.mem_cons, or_iff_left apart, Prod.mk.injEq]
        rcases Nat.eq_zero_or_pos offset with rfl | behind
        · rw [List.drop_zero]
          constructor
          · rintro ⟨-, rfl⟩
            exact ⟨wellFormed, List.prefix_append _ _⟩
          · rintro ⟨isWellFormed, starts⟩
            exact ⟨rfl, Reference.eq_of_prefix isWellFormed starts wellFormed
              (List.prefix_append _ _)⟩
        · constructor
          · rintro ⟨same, -⟩
            omega
          · rintro ⟨-, starts⟩
            exact (not_prefix_drop wellFormed behind inside reference starts).elim
      · obtain ⟨further, rfl⟩ := Nat.exists_eq_add_of_le (Nat.le_of_not_lt inside)
        rw [placed, List.mem_cons, ← Nat.add_assoc, later, List.drop_append,
          List.drop_of_length_le (Nat.le_add_right _ _), List.nil_append, Nat.add_sub_cancel_left,
          Prod.mk.injEq]
        have length := first.length_chars_pos
        exact or_iff_right fun same => by omega
  | @literal text rest parts nonempty plain apart goesOn ih =>
      have later := ih (start + text.length)
      rw [placed, String.length_ofList]
      by_cases inside : offset < text.length
      · constructor
        · intro member
          have after := le_of_mem_placed member
          simp only at after
          omega
        · rintro ⟨wellFormed, starts⟩
          rw [List.drop_append_of_le_length (Nat.le_of_lt inside)] at starts
          refine (plain.not_prefix (goesOn.cases_of_apart apart) ?_ (List.drop_suffix _ _)
            wellFormed starts).elim
          rw [ne_eq, List.drop_eq_nil_iff]
          omega
      · obtain ⟨further, rfl⟩ := Nat.exists_eq_add_of_le (Nat.le_of_not_lt inside)
        rw [← Nat.add_assoc, later, List.drop_append,
          List.drop_of_length_le (Nat.le_add_right _ _), List.nil_append, Nat.add_sub_cancel_left]

/-- The placeholders are the references that occur in the template. -/
theorem mem_placed_iff {template : String} {offset : Nat} :
    (offset, reference) ∈ placed 0 (tokens template) ↔
      reference.WellFormed ∧ reference.chars <+: template.toList.drop offset := by
  rw [← (cut_tokens template).mem_placed_iff 0 offset, Nat.zero_add]

end Template

end Storyboard
