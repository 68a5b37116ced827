import Storyboard.Proofs.Template.Grammar
/-!
# Scanning by bytes

Tokens can be found in the bytes of a template with two positions, the start of the literal at
hand and a cursor: the cursor goes to the next opening of a reference and from there to the next
closing brace, and steps over the dollar sign alone if no reference stands between them. A slice
that would begin or end inside a character, or beyond the end, is none at all. The scan takes no
such slice, and finds the tokens of the template.

Main result: `tokens_grammar`.
-/

namespace Storyboard

/-- A slice of a template, a reference with what was read off it. -/
inductive Piece where
  | literal (text : List Char)
  | placeholder (raw : List Char) (reference : Reference)

/-- The slices that a token stands for. -/
def Token.piece : Token → Piece
  | literal text => .literal text.toList
  | placeholder reference => .placeholder reference.chars reference

namespace Template

/-! ### Slices -/

/-- The number of bytes that characters take. -/
def bytes : List Char → Nat
  | [] => 0
  | c :: rest => c.utf8Size + bytes rest

/-- The part of a text from a byte on. -/
def from? (first : Nat) : List Char → Option (List Char)
  | [] => if first = 0 then some [] else none
  | c :: rest =>
    if first = 0 then some (c :: rest)
    else if c.utf8Size ≤ first then from? (first - c.utf8Size) rest else none

/-- The part of a text before a byte. -/
def upTo? (last : Nat) : List Char → Option (List Char)
  | [] => if last = 0 then some [] else none
  | c :: rest =>
    if last = 0 then some []
    else if c.utf8Size ≤ last then (upTo? (last - c.utf8Size) rest).map (c :: ·) else none

/-- The part of a text between two bytes. -/
def between? (first last : Nat) (text : List Char) : Option (List Char) :=
  if first ≤ last then (from? first text).bind (upTo? (last - first)) else none

/-- The first byte of the first occurrence of a pattern. -/
def find? (pattern : List Char) : List Char → Option Nat
  | [] => none
  | c :: rest =>
    if pattern.isPrefixOf (c :: rest) then some 0
    else (find? pattern rest).map (c.utf8Size + ·)

@[simp]
theorem bytes_append (text rest : List Char) : bytes (text ++ rest) = bytes text + bytes rest := by
  induction text with
  | nil => simp [bytes]
  | cons c text ih => simp [bytes, ih, Nat.add_assoc]

theorem bytes_chars (reference : Reference) :
    bytes reference.chars = 2 + bytes reference.inner + 1 := by
  have whole : reference.chars = ['$', '\x7b'] ++ reference.inner ++ ['\x7d'] := by
    rw [← List.append_nil reference.chars, Reference.chars_append]
    simp
  rw [whole, bytes_append, bytes_append]
  rfl

theorem from?_append (before rest : List Char) :
    from? (bytes before) (before ++ rest) = some rest := by
  induction before with
  | nil => cases rest <;> rfl
  | cons c before ih =>
      have positive := c.utf8Size_pos
      have nonzero : bytes (c :: before) ≠ 0 := by
        simp only [bytes]
        omega
      rw [List.cons_append, from?, if_neg nonzero, bytes, if_pos (Nat.le_add_right _ _),
        Nat.add_sub_cancel_left, ih]

theorem upTo?_append (text rest : List Char) :
    upTo? (bytes text) (text ++ rest) = some text := by
  induction text with
  | nil => cases rest <;> rfl
  | cons c text ih =>
      have positive := c.utf8Size_pos
      have nonzero : bytes (c :: text) ≠ 0 := by
        simp only [bytes]
        omega
      rw [List.cons_append, upTo?, if_neg nonzero, bytes, if_pos (Nat.le_add_right _ _),
        Nat.add_sub_cancel_left, ih]
      rfl

theorem between?_append (before text rest : List Char) :
    between? (bytes before) (bytes before + bytes text) (before ++ (text ++ rest)) =
      some text := by
  rw [between?, if_pos (Nat.le_add_right _ _), from?_append, Option.bind_some,
    Nat.add_sub_cancel_left, upTo?_append]

theorem between?_inner (before word inner after : List Char) :
    between? (bytes before + bytes word + 2) (bytes before + bytes word + 2 + bytes inner)
      (before ++ (word ++ '$' :: '\x7b' :: (inner ++ '\x7d' :: after))) = some inner := by
  have slice := between?_append (before ++ word ++ ['$', '\x7b']) inner ('\x7d' :: after)
  rw [bytes_append, bytes_append, List.append_assoc, List.append_assoc] at slice
  exact slice

/-- A slice does not begin beyond the end. -/
theorem le_bytes_of_from? {first : Nat} {text rest : List Char}
    (slices : from? first text = some rest) : first ≤ bytes text := by
  induction text generalizing first with
  | nil =>
      rw [from?] at slices
      split at slices
      · omega
      · cases slices
  | cons c text ih =>
      rw [from?] at slices
      split at slices
      · omega
      · split at slices
        · have within := ih slices
          rw [bytes]
          omega
        · cases slices

section Find

variable {pattern text : List Char}

/-- Up to the occurrence that is found, the pattern begins nowhere. -/
theorem find?_eq_some {offset : Nat} (finds : find? pattern text = some offset) :
    ∃ before after, text = before ++ (pattern ++ after) ∧ offset = bytes before ∧
      ∀ behind, behind ≠ [] → behind <:+ before → ¬pattern <+: behind ++ (pattern ++ after) := by
  induction text generalizing offset with
  | nil => cases finds
  | cons c rest ih =>
      rw [find?] at finds
      split at finds
      · rename_i starts
        obtain ⟨after, whole⟩ := List.isPrefixOf_iff_prefix.1 starts
        cases finds
        exact ⟨[], after, whole.symm, rfl, fun _ nonempty ends =>
          (nonempty (List.suffix_nil.1 ends)).elim⟩
      · rename_i apart
        obtain ⟨further, found, rfl⟩ := Option.map_eq_some_iff.1 finds
        obtain ⟨before, after, rfl, rfl, silent⟩ := ih found
        refine ⟨c :: before, after, rfl, rfl, fun behind nonempty ends => ?_⟩
        rcases List.suffix_cons_iff.1 ends with rfl | later
        · exact fun starts => apart (List.isPrefixOf_iff_prefix.2 starts)
        · exact silent behind nonempty later

theorem find?_eq_none (finds : find? pattern text = none) :
    ∀ behind, behind ≠ [] → behind <:+ text → ¬pattern <+: behind := by
  induction text with
  | nil => exact fun _ nonempty ends => (nonempty (List.suffix_nil.1 ends)).elim
  | cons c rest ih =>
      rw [find?] at finds
      split at finds
      · cases finds
      · rename_i apart
        intro behind nonempty ends
        rcases List.suffix_cons_iff.1 ends with rfl | later
        · exact fun starts => apart (List.isPrefixOf_iff_prefix.2 starts)
        · exact ih (Option.map_eq_none_iff.1 finds) behind nonempty later

/-- A text in which a character begins nowhere does not have it. -/
theorem not_mem_of_not_prefix {c : Char} (rest : List Char)
    (apart : ∀ behind, behind ≠ [] → behind <:+ text → ¬[c] <+: behind ++ rest) : c ∉ text := by
  intro member
  obtain ⟨before, after, rfl⟩ := List.append_of_mem member
  exact apart (c :: after) (List.cons_ne_nil _ _) (List.suffix_append _ _) ⟨after ++ rest, rfl⟩

end Find

/-! ### The scan -/

/-- The reference between braces. -/
def splitReference? (inner : List Char) : Option Reference :=
  match inner.takeWhile (· != '.'), inner.dropWhile (· != '.') with
  | scope, '.' :: key =>
    if !scope.isEmpty && scope.all Reference.isScopeChar && !key.isEmpty &&
        key.all Reference.isKeyChar then some ⟨String.ofList scope, String.ofList key⟩
    else none
  | _, _ => none

/-- The literal between two bytes, unless there are none between them. -/
def literalBetween? (first last : Nat) (text : List Char) : Option (List Piece) :=
  if first < last then (between? first last text).map fun slice => [.literal slice] else some []

/-- The dollar sign of the next opening and the closing brace after it, if both are there. -/
def nextBraces? (text : List Char) (cursor : Nat) : Option (Option (Nat × Nat)) := do
  match find? ['$', '\x7b'] (← from? cursor text) with
  | none => return none
  | some offset =>
    let opening := cursor + offset
    match find? ['\x7d'] (← from? (opening + 2) text) with
    | none => return none
    | some length => return some (opening, opening + 2 + length)

theorem nextBraces?_bounds {text : List Char} {cursor opening closing : Nat}
    (finds : nextBraces? text cursor = some (some (opening, closing))) :
    cursor ≤ opening ∧ opening < closing ∧ opening ≤ bytes text := by
  simp only [nextBraces?, Option.bind_eq_bind, Option.bind_eq_some_iff] at finds
  obtain ⟨rest, ahead, finds⟩ := finds
  split at finds
  · cases finds
  · obtain ⟨inside, entered, finds⟩ := Option.bind_eq_some_iff.1 finds
    have within := le_bytes_of_from? entered
    split at finds
    · cases finds
    · simp only [Option.pure_def, Option.some.injEq, Prod.mk.injEq] at finds
      omega

/-- The slices of a template from the start of a literal on; no placeholder starts between that
and the cursor. -/
def scanFrom? (text : List Char) (literalStart cursor : Nat) : Option (List Piece) :=
  match _ahead : nextBraces? text cursor with
  | none => none
  | some none => literalBetween? literalStart (bytes text) text
  | some (some (opening, closing)) => do
    match splitReference? (← between? (opening + 2) closing text) with
    | some reference =>
      let literal ← literalBetween? literalStart opening text
      let raw ← between? opening (closing + 1) text
      let following ← scanFrom? text (closing + 1) (closing + 1)
      return literal ++ .placeholder raw reference :: following
    | none => scanFrom? text literalStart (opening + 1)
termination_by bytes text + 1 - cursor
decreasing_by
  all_goals
    have bounds := nextBraces?_bounds ‹_›
    omega

theorem scanFrom?_of_none {text : List Char} {literalStart cursor : Nat}
    (ahead : nextBraces? text cursor = some none) :
    scanFrom? text literalStart cursor = literalBetween? literalStart (bytes text) text := by
  rw [scanFrom?]
  split
  · rename_i found
    cases found.symm.trans ahead
  · rfl
  · rename_i found
    cases found.symm.trans ahead

/-- Between the braces there is a reference, or the scan steps over the dollar sign. -/
theorem scanFrom?_of_some {text inner : List Char} {literalStart cursor opening closing : Nat}
    (ahead : nextBraces? text cursor = some (some (opening, closing)))
    (isInner : between? (opening + 2) closing text = some inner) :
    scanFrom? text literalStart cursor =
      match splitReference? inner with
      | some reference => do
        let literal ← literalBetween? literalStart opening text
        let raw ← between? opening (closing + 1) text
        let following ← scanFrom? text (closing + 1) (closing + 1)
        return literal ++ .placeholder raw reference :: following
      | none => scanFrom? text literalStart (opening + 1) := by
  rw [scanFrom?]
  split
  · rename_i found
    cases found.symm.trans ahead
  · rename_i found
    cases found.symm.trans ahead
  · rename_i found
    cases found.symm.trans ahead
    rw [isInner]
    rfl

/-- The slices of a template. -/
def scan? (template : String) : Option (List Piece) := scanFrom? template.toList 0 0

/-! ### The scan finds the tokens -/

theorem splitReference?_eq_some_iff {inner : List Char} {reference : Reference} :
    splitReference? inner = some reference ↔ reference.WellFormed ∧ reference.inner = inner := by
  constructor
  · intro splits
    unfold splitReference? at splits
    split at splits
    · rename_i key isRest
      split at splits
      · rename_i good
        cases splits
        simp only [Bool.and_eq_true, Bool.not_eq_true', List.isEmpty_eq_false_iff,
          List.all_eq_true] at good
        obtain ⟨⟨⟨scopeNonempty, scopeAll⟩, keyNonempty⟩, keyAll⟩ := good
        simp only [Reference.WellFormed, Reference.inner, String.toList_ofList]
        refine ⟨⟨scopeNonempty, scopeAll, keyNonempty, keyAll⟩, ?_⟩
        rw [← isRest, List.takeWhile_append_dropWhile]
      · cases splits
    · cases splits
  · rintro ⟨⟨scopeNonempty, scopeAll, keyNonempty, keyAll⟩, rfl⟩
    have noPoint : ∀ c ∈ reference.scope.toList, (c != '.') = true := by
      intro c member
      rw [bne_iff_ne]
      rintro rfl
      cases scopeAll _ member
    have cut := Reference.takeWhile_append_cons noPoint (by decide : ('.' != '.') = false)
      reference.key.toList
    unfold splitReference? Reference.inner
    rw [cut.1, cut.2]
    simp only [List.isEmpty_eq_false_iff.2 scopeNonempty, List.isEmpty_eq_false_iff.2 keyNonempty,
      List.all_eq_true.2 scopeAll, List.all_eq_true.2 keyAll, String.ofList_toList]
    rfl

/-- What is inside braces is what comes before the first closing one. -/
theorem eq_of_append_brace {inner other after rest : List Char} (none : '\x7d' ∉ inner)
    (otherNone : '\x7d' ∉ other) (same : inner ++ '\x7d' :: after = other ++ '\x7d' :: rest) :
    inner = other := by
  have apart : ∀ {text : List Char}, '\x7d' ∉ text → ∀ c ∈ text, (c != '\x7d') = true := by
    intro text free c member
    rw [bne_iff_ne]
    rintro rfl
    exact free member
  have stops : ('\x7d' != '\x7d') = false := by decide
  rw [← (Reference.takeWhile_append_cons (apart none) stops after).1, same,
    (Reference.takeWhile_append_cons (apart otherNone) stops rest).1]

/-- Up to the first closing brace there is a reference, or none starts here. -/
theorem read?_eq_splitReference? {inner : List Char} (free : '\x7d' ∉ inner) (after : List Char) :
    Reference.read? ('$' :: '\x7b' :: (inner ++ '\x7d' :: after)) = splitReference? inner := by
  cases splits : splitReference? inner with
  | some reference =>
      obtain ⟨wellFormed, rfl⟩ := splitReference?_eq_some_iff.1 splits
      rw [← Reference.chars_append]
      exact Reference.read?_append wellFormed after
  | none =>
      cases reads : Reference.read? ('$' :: '\x7b' :: (inner ++ '\x7d' :: after)) with
      | none => rfl
      | some reference =>
          obtain ⟨wellFormed, rest, starts⟩ := Reference.read?_eq_some_iff.1 reads
          rw [Reference.chars_append, List.cons.injEq, List.cons.injEq] at starts
          have brace := wellFormed.not_mem_inner (by decide)
            (by decide : Reference.isKeyChar '\x7d' = false)
          have same := eq_of_append_brace brace free starts.2.2
          rw [splitReference?_eq_some_iff.2 ⟨wellFormed, same⟩] at splits
          cases splits

theorem read?_eq_none_of_opening {text : List Char} (apart : ¬['$', '\x7b'] <+: text) :
    Reference.read? text = none := by
  cases reads : Reference.read? text with
  | none => rfl
  | some reference =>
      obtain ⟨-, rest, rfl⟩ := Reference.read?_eq_some_iff.1 reads
      exact (apart ⟨_, rfl⟩).elim

theorem read?_eq_none_of_brace {text : List Char} (free : '\x7d' ∉ text) :
    Reference.read? text = none := by
  cases reads : Reference.read? text with
  | none => rfl
  | some reference =>
      obtain ⟨-, starts⟩ := Reference.read?_eq_some_iff.1 reads
      refine (free (starts.subset ?_)).elim
      simp [Reference.chars]

theorem literalBetween?_append (before literal rest : List Char) :
    literalBetween? (bytes before) (bytes before + bytes literal) (before ++ (literal ++ rest)) =
      some ((Token.ofPending literal.reverse).map Token.piece) := by
  rw [literalBetween?, between?_append]
  cases literal with
  | nil => simp [bytes, Token.ofPending]
  | cons c others =>
      have positive := c.utf8Size_pos
      have nonempty : bytes before < bytes before + bytes (c :: others) := by
        simp only [bytes]
        omega
      rw [if_pos nonempty, ofPending_reverse (List.cons_ne_nil c others)]
      simp [Token.piece]

/-- A literal at the end of a text. -/
theorem literalBetween?_bytes (before literal : List Char) :
    literalBetween? (bytes before) (bytes (before ++ literal)) (before ++ literal) =
      some ((Token.ofPending literal.reverse).map Token.piece) := by
  have ends := literalBetween?_append before literal []
  rwa [List.append_nil, ← bytes_append] at ends

/-- Where no reference starts any more, the rest is a literal. -/
theorem tokensFrom_of_silent {text : List Char} (pending : List Char)
    (silent : ∀ behind, behind ≠ [] → behind <:+ text → Reference.read? behind = none) :
    tokensFrom pending 0 text = Token.ofPending (text.reverse ++ pending) := by
  have quiet : Quiet text.reverse [] := by
    intro behind nonempty ends
    rw [List.reverse_reverse] at ends
    rw [List.append_nil]
    exact silent behind nonempty ends
  have all := tokensFrom_quiet quiet pending
  rwa [List.append_nil, tokensFrom] at all

/-- No reference starts in a text if none starts in either part. -/
theorem silent_append {skip tail : List Char} (quiet : Quiet skip.reverse tail)
    (silent : ∀ behind, behind ≠ [] → behind <:+ tail → Reference.read? behind = none) :
    ∀ behind, behind ≠ [] → behind <:+ skip ++ tail → Reference.read? behind = none := by
  intro behind nonempty ends
  rcases List.suffix_or_suffix_of_suffix ends (List.suffix_append skip tail) with
    inside | ⟨first, rfl⟩
  · exact silent behind nonempty inside
  · by_cases alone : first = []
    · subst alone
      exact silent _ nonempty (List.suffix_refl tail)
    · obtain ⟨before, whole⟩ := ends
      rw [← List.append_assoc] at whole
      refine quiet first alone ⟨before, ?_⟩
      rw [List.reverse_reverse]
      exact List.append_cancel_right whole

theorem nextBraces?_cases (before rest : List Char) :
    (nextBraces? (before ++ rest) (bytes before) = some none ∧
      ∀ behind, behind ≠ [] → behind <:+ rest → Reference.read? behind = none) ∨
    ∃ skip inner after, rest = skip ++ ('$' :: '\x7b' :: (inner ++ '\x7d' :: after)) ∧
      '\x7d' ∉ inner ∧ Quiet skip.reverse ('$' :: '\x7b' :: (inner ++ '\x7d' :: after)) ∧
      nextBraces? (before ++ rest) (bytes before) =
        some (some (bytes before + bytes skip, bytes before + bytes skip + 2 + bytes inner)) := by
  unfold nextBraces?
  rw [from?_append]
  cases opens : find? ['$', '\x7b'] rest with
  | none =>
      left
      refine ⟨by simp only [opens, Option.bind_eq_bind, Option.bind_some, Option.pure_def],
        fun behind nonempty ends => ?_⟩
      exact read?_eq_none_of_opening (find?_eq_none opens behind nonempty ends)
  | some offset =>
      obtain ⟨skip, inside, rfl, rfl, silent⟩ := find?_eq_some opens
      have entered : from? (bytes before + bytes skip + 2)
          (before ++ (skip ++ (['$', '\x7b'] ++ inside))) = some inside := by
        have slice := from?_append (before ++ skip ++ ['$', '\x7b']) inside
        rw [bytes_append, bytes_append, List.append_assoc, List.append_assoc] at slice
        exact slice
      have quiet : Quiet skip.reverse (['$', '\x7b'] ++ inside) := by
        intro behind nonempty ends
        rw [List.reverse_reverse] at ends
        exact read?_eq_none_of_opening (silent behind nonempty ends)
      cases closes : find? ['\x7d'] inside with
      | none =>
          left
          refine ⟨by simp only [opens, entered, closes, Option.bind_eq_bind, Option.bind_some,
            Option.pure_def], silent_append quiet fun behind _ ends => ?_⟩
          have free : '\x7d' ∉ inside := by
            apply not_mem_of_not_prefix []
            simpa using find?_eq_none closes
          apply read?_eq_none_of_brace
          intro member
          have among := ends.subset member
          simp only [List.cons_append, List.nil_append, List.mem_cons] at among
          rcases among with dollar | brace | among
          · cases dollar
          · cases brace
          · exact free among
      | some length =>
          obtain ⟨inner, after, rfl, rfl, free⟩ := find?_eq_some closes
          right
          refine ⟨skip, inner, after, rfl, not_mem_of_not_prefix _ free, quiet, ?_⟩
          simp only [opens, entered, closes, Option.bind_eq_bind, Option.bind_some,
            Option.pure_def]

section Braces

variable {before word after inner : List Char} {cursor literalStart : Nat}

/-- The scan steps over the dollar sign alone if no reference stands between the braces. -/
theorem scanFrom?_of_not_reference (none : splitReference? inner = none)
    (ahead : nextBraces? (before ++ (word ++ '$' :: '\x7b' :: (inner ++ '\x7d' :: after))) cursor =
      some (some (bytes before + bytes word, bytes before + bytes word + 2 + bytes inner))) :
    scanFrom? (before ++ (word ++ '$' :: '\x7b' :: (inner ++ '\x7d' :: after))) literalStart cursor =
      scanFrom? (before ++ (word ++ '$' :: '\x7b' :: (inner ++ '\x7d' :: after))) literalStart
        (bytes before + bytes word + 1) := by
  rw [scanFrom?_of_some ahead (between?_inner before word inner after), none]

theorem scanFrom?_of_reference {reference : Reference} (wellFormed : reference.WellFormed)
    (ahead : nextBraces? (before ++ (word ++ (reference.chars ++ after))) cursor =
      some (some (bytes before + bytes word,
        bytes before + bytes word + 2 + bytes reference.inner))) :
    scanFrom? (before ++ (word ++ (reference.chars ++ after))) (bytes before) cursor =
      (scanFrom? (before ++ (word ++ (reference.chars ++ after)))
        (bytes before + bytes word + bytes reference.chars)
        (bytes before + bytes word + bytes reference.chars)).map fun following =>
          (Token.ofPending word.reverse).map Token.piece ++
            (Token.placeholder reference).piece :: following := by
  have isInner := between?_inner before word reference.inner after
  rw [← Reference.chars_append] at isInner
  have raw := between?_append (before ++ word) reference.chars after
  rw [bytes_append, List.append_assoc, bytes_chars, ← Nat.add_assoc, ← Nat.add_assoc] at raw
  rw [scanFrom?_of_some ahead isInner, splitReference?_eq_some_iff.2 ⟨wellFormed, rfl⟩,
    literalBetween?_append, bytes_chars, ← Nat.add_assoc, ← Nat.add_assoc]
  simp only [raw]
  cases scanFrom? (before ++ (word ++ (reference.chars ++ after)))
      (bytes before + bytes word + 2 + bytes reference.inner + 1)
      (bytes before + bytes word + 2 + bytes reference.inner + 1) with
  | none => rfl
  | some following => rfl

end Braces

/-- The scan goes on like the tokens do, at whatever literal it is. -/
theorem scanFrom?_eq (before literal rest : List Char) :
    scanFrom? (before ++ (literal ++ rest)) (bytes before) (bytes before + bytes literal) =
      some ((tokensFrom literal.reverse 0 rest).map Token.piece) := by
  induction size : rest.length using Nat.strong_induction_on generalizing before literal rest with
  | _ n ih =>
      rcases nextBraces?_cases (before ++ literal) rest with
        ⟨ahead, silent⟩ | ⟨skip, inner, after, rfl, free, quiet, ahead⟩
      · rw [List.append_assoc, bytes_append] at ahead
        rw [scanFrom?_of_none ahead, tokensFrom_of_silent _ silent, ← List.reverse_append]
        exact literalBetween?_bytes before (literal ++ rest)
      · have shorter : (inner ++ '\x7d' :: after).length + 1 < n := by
          simp only [List.length_append, List.length_cons] at size ⊢
          omega
        rw [List.append_assoc, ← List.append_assoc literal, bytes_append,
          Nat.add_assoc _ (bytes literal), ← bytes_append literal] at ahead
        rw [tokensFrom_quiet quiet, ← List.reverse_append, ← List.append_assoc literal]
        have reads := read?_eq_splitReference? free after
        cases splits : splitReference? inner with
        | none =>
            rw [splits] at reads
            rw [scanFrom?_of_not_reference splits ahead, tokensFrom, reads]
            have goesOn := ih _ shorter before (literal ++ skip ++ ['$'])
              ('\x7b' :: (inner ++ '\x7d' :: after)) rfl
            rw [List.append_assoc, bytes_append _ ['$'], List.reverse_append,
              ← Nat.add_assoc] at goesOn
            exact goesOn
        | some reference =>
            obtain ⟨wellFormed, rfl⟩ := splitReference?_eq_some_iff.1 splits
            have fewer : after.length < n := by
              simp only [List.length_append, List.length_cons] at shorter
              omega
            rw [← Reference.chars_append] at ahead ⊢
            have goesOn := ih _ fewer (before ++ (literal ++ skip) ++ reference.chars) [] after rfl
            rw [bytes_append, bytes_append, List.append_assoc, List.append_assoc, List.nil_append,
              bytes, Nat.add_zero] at goesOn
            rw [scanFrom?_of_reference wellFormed ahead, tokensFrom_reference wellFormed, goesOn]
            simp

theorem scan?_eq (template : String) :
    scan? template = some ((tokens template).map Token.piece) :=
  scanFrom?_eq [] [] template.toList

/-- The tokens of a template are what the scan finds, they are the only split of it, and their
placeholders are all references that occur in it, at places that do not overlap. -/
theorem tokens_grammar (template : String) :
    scan? template = some ((tokens template).map Token.piece) ∧
      (∀ parts, Splits template parts ↔ parts = tokens template) ∧
      (∀ offset reference, (offset, reference) ∈ placed 0 (tokens template) ↔
        reference.WellFormed ∧ reference.chars <+: template.toList.drop offset) ∧
      (placed 0 (tokens template)).Pairwise fun place next =>
        place.1 + place.2.chars.length ≤ next.1 :=
  ⟨scan?_eq template, fun _ => splits_iff, fun _ _ => mem_placed_iff, pairwise_placed 0 _⟩

/-- After a malformed opening the scan goes on at the next character. -/
example : tokens "$\x7b$\x7bfields.a\x7d" = [.literal "$\x7b", .placeholder ⟨"fields", "a"⟩] := by
  decide

end Template

end Storyboard
