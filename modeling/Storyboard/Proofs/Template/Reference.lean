import Mathlib.Data.List.TakeWhile
import Storyboard.Template.Token
/-!
# References in a text

A text starts with a reference if and only if the reference is well formed and its characters
come first. The dollar sign of a reference is its first character and no other, and its closing
brace is the last, so that references in a text never overlap.

Main results: `Reference.read?_eq_some_iff` and `Reference.prefix_of_prefix_append`.
-/

namespace Storyboard

namespace Reference

variable {reference other : Reference} {text before after : List Char}

theorem isKeyChar_of_isScopeChar {c : Char} (letter : isScopeChar c = true) :
    isKeyChar c = true := by
  simp only [isScopeChar] at letter
  simp [isKeyChar, Char.isAlphanum, letter]

/-- What a class of characters takes from a text that goes on with another one. -/
theorem takeWhile_append_cons {p : Char → Bool} {word : List Char} {c : Char}
    (all : ∀ d ∈ word, p d = true) (stops : p c = false) (rest : List Char) :
    (word ++ c :: rest).takeWhile p = word ∧ (word ++ c :: rest).dropWhile p = c :: rest := by
  rw [List.takeWhile_append_of_pos all, List.dropWhile_append_of_pos all]
  simp [stops]

/-! ### Reading -/

theorem readKey?_eq_some_iff {scope : List Char} :
    readKey? scope text = some reference ↔
      reference.scope = String.ofList scope ∧ reference.key.toList ≠ [] ∧
        (∀ c ∈ reference.key.toList, isKeyChar c = true) ∧
        reference.key.toList ++ ['\x7d'] <+: text := by
  constructor
  · intro reads
    unfold readKey? at reads
    split at reads
    · cases reads
    · rename_i after isAfter nonempty
      cases reads
      simp only [String.toList_ofList]
      refine ⟨trivial, nonempty, fun c member => List.mem_takeWhile_imp member, ⟨after, ?_⟩⟩
      rw [List.append_assoc, List.singleton_append, ← isAfter, List.takeWhile_append_dropWhile]
    · cases reads
  · rintro ⟨isScope, nonempty, all, rest, rfl⟩
    have cut := takeWhile_append_cons all (by decide : isKeyChar '\x7d' = false) rest
    rw [List.append_assoc, List.singleton_append]
    unfold readKey?
    rw [cut.1, cut.2]
    cases key : reference.key.toList with
    | nil => exact (nonempty key).elim
    | cons c cs =>
        simp only [← key, String.ofList_toList, ← isScope]

/-- A text starts with a reference if its characters come first. -/
theorem read?_eq_some_iff :
    read? text = some reference ↔ reference.WellFormed ∧ reference.chars <+: text := by
  constructor
  · intro reads
    unfold read? at reads
    split at reads
    · rename_i rest
      split at reads
      · cases reads
      · rename_i behind isBehind nonempty
        obtain ⟨named, keyNonempty, keyAll, ⟨after, isAfter⟩⟩ := readKey?_eq_some_iff.1 reads
        have isScope : reference.scope.toList = rest.takeWhile isScopeChar := by
          rw [named, String.toList_ofList]
        refine ⟨⟨?_, ?_, keyNonempty, keyAll⟩, ⟨after, ?_⟩⟩
        · rw [isScope]
          exact nonempty
        · rw [isScope]
          exact fun c member => List.mem_takeWhile_imp member
        · calc reference.chars ++ after
              = '$' :: '\x7b' :: (rest.takeWhile isScopeChar ++
                  '.' :: (reference.key.toList ++ ['\x7d'] ++ after)) := by
                simp [chars, isScope]
            _ = '$' :: '\x7b' :: rest := by
                rw [isAfter, ← isBehind, List.takeWhile_append_dropWhile]
      · cases reads
    · cases reads
  · rintro ⟨⟨scopeNonempty, scopeAll, keyNonempty, keyAll⟩, after, rfl⟩
    have cut := takeWhile_append_cons scopeAll (by decide : isScopeChar '.' = false)
      (reference.key.toList ++ '\x7d' :: after)
    have shape : reference.chars ++ after = '$' :: '\x7b' ::
        (reference.scope.toList ++ '.' :: (reference.key.toList ++ '\x7d' :: after)) := by
      simp [chars]
    rw [shape]
    unfold read?
    simp only [cut.1, cut.2]
    cases scope : reference.scope.toList with
    | nil => exact (scopeNonempty scope).elim
    | cons c cs =>
        refine readKey?_eq_some_iff.2 ⟨?_, keyNonempty, keyAll, ⟨after, by simp⟩⟩
        rw [← scope, String.ofList_toList]

theorem read?_append (wellFormed : reference.WellFormed) (after : List Char) :
    read? (reference.chars ++ after) = some reference :=
  read?_eq_some_iff.2 ⟨wellFormed, List.prefix_append _ _⟩

/-- The reference that a text starts with is determined by the text. -/
theorem eq_of_prefix (wellFormed : reference.WellFormed) (starts : reference.chars <+: text)
    (otherWellFormed : other.WellFormed) (otherStarts : other.chars <+: text) :
    reference = other := by
  have reads := read?_eq_some_iff.2 ⟨wellFormed, starts⟩
  rw [read?_eq_some_iff.2 ⟨otherWellFormed, otherStarts⟩] at reads
  exact (Option.some.inj reads).symm

/-! ### Where references begin and end -/

theorem length_chars_pos (reference : Reference) : 0 < reference.chars.length := by
  simp [chars]

/-- The characters between the braces. -/
def inner (reference : Reference) : List Char :=
  reference.scope.toList ++ '.' :: reference.key.toList

theorem chars_append (reference : Reference) (rest : List Char) :
    reference.chars ++ rest = '$' :: '\x7b' :: (reference.inner ++ '\x7d' :: rest) := by
  simp [chars, inner]

theorem WellFormed.mem_inner (wellFormed : reference.WellFormed) {c : Char}
    (member : c ∈ reference.inner) : c = '.' ∨ isKeyChar c = true := by
  obtain ⟨-, scopeAll, -, keyAll⟩ := wellFormed
  rcases List.mem_append.1 member with scope | point
  · exact Or.inr (isKeyChar_of_isScopeChar (scopeAll c scope))
  · rcases List.mem_cons.1 point with rfl | key
    · exact Or.inl rfl
    · exact Or.inr (keyAll c key)

theorem WellFormed.not_mem_inner (wellFormed : reference.WellFormed) {c : Char}
    (noPoint : c ≠ '.') (noKeyChar : isKeyChar c = false) : c ∉ reference.inner := by
  intro member
  rcases wellFormed.mem_inner member with point | keyChar
  · exact noPoint point
  · rw [noKeyChar] at keyChar
    cases keyChar

/-- The dollar sign is the first character and no other. -/
theorem WellFormed.dollar_not_mem (wellFormed : reference.WellFormed) :
    '$' ∉ reference.chars.tail := by
  have inside := wellFormed.not_mem_inner (by decide) (by decide : isKeyChar '$' = false)
  rw [← List.append_nil reference.chars, chars_append]
  simp [inside]

/-- A reference that starts before a dollar sign ends before it. -/
theorem prefix_of_prefix_append (wellFormed : reference.WellFormed) (nonempty : before ≠ [])
    (starts : reference.chars <+: before ++ '$' :: after) : reference.chars <+: before := by
  rcases List.prefix_or_prefix_of_prefix starts (List.prefix_append before _) with
    inside | ⟨rest, isRest⟩
  · exact inside
  · cases rest with
    | nil => exact ⟨[], by simpa using isRest.symm⟩
    | cons c rest =>
        -- The reference reaches the dollar sign, which would be one of its later characters.
        rw [← isRest, List.prefix_append_right_inj, List.cons_prefix_cons] at starts
        obtain ⟨rfl, -⟩ := starts
        apply (wellFormed.dollar_not_mem _).elim
        rw [← isRest, List.tail_append_of_ne_nil nonempty]
        exact List.mem_append_right _ List.mem_cons_self

end Reference

end Storyboard
