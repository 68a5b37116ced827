import Storyboard.Json.Printer
import Storyboard.Json.Reader
/-!
# Printed text reads back

The compact text of a printable value is JSON on one line, what is written in it is the value,
and reading it gives the value back. Floating-point numbers are not among the printable ones: a
literal is rounded twice, so the shortest text of a number need not read as the same number.

Main results: `parse?_compact`, `value?_ofJson` and `not_mem_compact`.
-/

namespace Storyboard

namespace Json

/-- The integers that a literal can stand for. -/
def IsInteger (number : Int) : Prop :=
  -(Nat.pow 2 63 : Nat) ≤ number ∧ number < (Nat.pow 2 64 : Nat)

/-- A value that text carries: its numbers are integers that a literal can stand for, the keys of
its objects ascend, and its arrays and objects nest at most `room` levels. -/
inductive Printable : (room : Nat) → Json → Prop where
  | null {room : Nat} : Printable room .null
  | bool {room : Nat} (value : Bool) : Printable room (.bool value)
  | int {room : Nat} {value : Int} (inRange : IsInteger value) : Printable room (.int value)
  | str {room : Nat} (text : String) : Printable room (.str text)
  | arr {room : Nat} {items : List Json} (below : ∀ item ∈ items, Printable room item) :
      Printable (room + 1) (.arr items)
  | obj {room : Nat} {fields : Fields} (ordered : fields.Ordered)
      (below : ∀ key value, (key, value) ∈ fields → Printable room value) :
      Printable (room + 1) (.obj fields)

end Json

namespace Written

/-! ### Strings -/

theorem codeUnit?_hexDigit : ∀ n : Nat, n < 0x20 →
    codeUnit? '0' '0' (Json.hexDigit (n / 16)) (Json.hexDigit (n % 16)) = some n := by
  decide

/-- An escaped character is read as its code. -/
theorem stringCodes?_escapeChar (c : Char) (codes : List Nat) (rest : List Char) :
    stringCodes? codes (Json.escapeChar c ++ rest) = stringCodes? (c.toNat :: codes) rest := by
  by_cases short : c ∈ ['"', '\\', '\x08', '\t', '\n', '\x0c', '\r']
  · simp only [List.mem_cons, List.not_mem_nil, or_false] at short
    rcases short with rfl | rfl | rfl | rfl | rfl | rfl | rfl
    all_goals simp [Json.escapeChar, stringCodes?, shortEscape?]
  · simp only [List.mem_cons, List.not_mem_nil, or_false, not_or] at short
    rcases short with ⟨quote, backslash, b, t, n, f, r⟩
    simp only [Json.escapeChar, if_neg quote, if_neg backslash, if_neg b, if_neg t, if_neg n,
      if_neg f, if_neg r]
    split
    · rename_i control
      simp only [List.cons_append, List.nil_append]
      rw [stringCodes?, codeUnit?_hexDigit c.toNat control]
    · rename_i printed
      rw [List.singleton_append, stringCodes?, if_neg printed]
      · exact quote
      · exact fun _ _ _ _ _ isBackslash => (backslash isBackslash).elim
      · exact fun _ _ isBackslash => (backslash isBackslash).elim

theorem stringCodes?_quoted (text : List Char) (codes : List Nat) (rest : List Char) :
    stringCodes? codes (text.flatMap Json.escapeChar ++ '"' :: rest) =
      some (codes.reverse ++ text.map Char.toNat, rest) := by
  induction text generalizing codes with
  | nil => simp [stringCodes?]
  | cons c text ih =>
      rw [List.flatMap_cons, List.append_assoc, stringCodes?_escapeChar, ih]
      simp

/-- No character is half of a surrogate pair. -/
theorem not_surrogate (c : Char) :
    isHighSurrogate c.toNat = false ∧ isLowSurrogate c.toNat = false := by
  have valid := c.valid
  simp only [isHighSurrogate, isLowSurrogate, Bool.and_eq_false_iff, decide_eq_false_iff_not,
    Nat.not_le]
  change UInt32.isValidChar c.val at valid
  unfold UInt32.isValidChar Nat.isValidChar at valid
  change c.toNat < _ ∨ _ < c.toNat ∧ c.toNat < _ at valid
  omega

theorem charsOfCodes?_map_toNat (text : List Char) :
    charsOfCodes? (text.map Char.toNat) = some text := by
  induction text with
  | nil => rfl
  | cons c rest ih =>
      rcases not_surrogate c with ⟨high, low⟩
      cases rest with
      | nil => simp [charsOfCodes?, high, low]
      | cons d rest =>
          rw [List.map_cons, List.map_cons] at *
          simp only [charsOfCodes?, high, low, Bool.false_eq_true, if_false, ih, Option.map_some,
            Char.ofNat_toNat]

/-- A quoted text is read as it was, from behind its opening quote on. -/
theorem string?_quoted (text : String) (rest : List Char) :
    string? (text.toList.flatMap Json.escapeChar ++ '"' :: rest) = some (some text, rest) := by
  simp [string?, stringCodes?_quoted, charsOfCodes?_map_toNat]

/-! ### Integers -/

/-- A text that a number does not go on with. -/
def EndsNumber (rest : List Char) : Prop :=
  ∀ c ∈ rest.head?, c.isDigit = false ∧ c ≠ '.' ∧ c ≠ 'e' ∧ c ≠ 'E'

variable {rest : List Char}

theorem digits_append {figures : List Char} (all : ∀ c ∈ figures, c.isDigit = true)
    (ends : EndsNumber rest) :
    digits (figures ++ rest) = (figures.map fun c => c.toNat - '0'.toNat, rest) := by
  have none : rest.takeWhile Char.isDigit = [] ∧ rest.dropWhile Char.isDigit = rest := by
    cases rest with
    | nil => exact ⟨rfl, rfl⟩
    | cons c rest => simp [(ends c (by simp)).1]
  rw [digits, List.takeWhile_append_of_pos all, List.dropWhile_append_of_pos all, none.1, none.2,
    List.append_nil]

/-- A number has digits, and zero is the first of them only if it stands alone. -/
theorem toDigits_shape (n : Nat) :
    ∃ first others, Nat.toDigits 10 n = first :: others ∧
      (first = '0' → others = []) := by
  induction n using Nat.strongRecOn with
  | ind n ih =>
      rw [Nat.toDigits_eq_if (by decide)]
      split
      · exact ⟨_, [], rfl, fun _ => rfl⟩
      · rename_i large
        rcases ih (n / 10) (by omega) with ⟨first, others, shape, zero⟩
        refine ⟨first, others ++ [(n % 10).digitChar], by rw [shape]; rfl, ?_⟩
        intro isZero
        exfalso
        have alone := zero isZero
        rw [isZero, alone] at shape
        have value := Nat.ofDigitChars_ten_toDigits (n := n / 10)
        rw [shape] at value
        have small : n / 10 = 0 := value.symm
        omega

theorem fraction?_of_ends (ends : EndsNumber rest) : fraction? rest = some (none, rest) := by
  cases rest with
  | nil => rfl
  | cons c rest =>
      rw [fraction?]
      rintro _ ⟨rfl, -⟩
      exact (ends '.' (by simp)).2.1 rfl

theorem exponent?_of_ends (ends : EndsNumber rest) : exponent? rest = some (none, rest) := by
  cases rest with
  | nil => rfl
  | cons c rest =>
      have letter := not_or.2 (ends c (by simp)).2.2
      simp only [exponent?, if_neg letter]

/-- The digits of a number. -/
def figuresOf (n : Nat) : List Nat := (Nat.toDigits 10 n).map fun c => c.toNat - '0'.toNat

theorem natOfDigits_figuresOf (n : Nat) : NumberLiteral.natOfDigits (figuresOf n) = n := by
  have value := Nat.ofDigitChars_ten_toDigits (n := n)
  rw [figuresOf, NumberLiteral.natOfDigits, List.foldl_map]
  simpa only [Nat.ofDigitChars_eq_foldl, Nat.mul_comm 10] using value

theorem isDigit_of_mem_toDigits (n : Nat) : ∀ c ∈ Nat.toDigits 10 n, c.isDigit = true :=
  fun _ among => Nat.isDigit_of_mem_toDigits (by decide) (by decide) among

theorem figuresOf_shape (n : Nat) :
    ∃ first others, figuresOf n = first :: others ∧ (first = 0 → others = []) := by
  rcases toDigits_shape n with ⟨first, others, shape, zero⟩
  refine ⟨first.toNat - '0'.toNat, others.map _, by rw [figuresOf, shape]; rfl, ?_⟩
  intro none
  have isDigit := Char.isDigit_iff_toNat.1 (isDigit_of_mem_toDigits n first (by simp [shape]))
  have code : first.toNat = '0'.toNat := by omega
  rw [zero (Char.toNat_inj.1 code), List.map_nil]

/-- The digits of a number are a literal, behind a minus sign or not. -/
theorem number?_toDigits (negative : Bool) (n : Nat) (ends : EndsNumber rest) :
    number? ((if negative then ['-'] else []) ++ (Nat.toDigits 10 n ++ rest)) =
      some ({ negative, whole := figuresOf n }, rest) := by
  have whole : digits (Nat.toDigits 10 n ++ rest) = (figuresOf n, rest) :=
    digits_append (isDigit_of_mem_toDigits n) ends
  rcases toDigits_shape n with ⟨c, more, chars, -⟩
  have unsigned : c ≠ '-' := by
    rintro rfl
    exact absurd (isDigit_of_mem_toDigits n '-' (by simp [chars])) (by decide)
  rcases figuresOf_shape n with ⟨first, others, shape, zero⟩
  rw [chars, shape, List.cons_append] at whole
  rw [chars, shape, List.cons_append]
  -- The literal is one digit, or its first digit is a successor.
  have alone : first = 0 ∧ others = [] ∨ ∃ m, first = m + 1 := by
    rcases first with _ | m
    · exact Or.inl ⟨rfl, zero rfl⟩
    · exact Or.inr ⟨m, rfl⟩
  rcases alone with ⟨rfl, rfl⟩ | ⟨m, rfl⟩
  all_goals
    cases negative
    all_goals
      simp [number?, unsigned, whole, fraction?_of_ends ends, exponent?_of_ends ends]

theorem toList_compact_int (value : Int) :
    (Json.int value).compact.toList =
      (if decide (value < 0) then ['-'] else []) ++ Nat.toDigits 10 value.natAbs := by
  rw [Json.compact, Int.toString_eq_repr, Int.repr_eq_if]
  by_cases negative : value < 0
  · have abs : (-value).toNat = value.natAbs := by omega
    simp [negative, Int.not_le.2 negative, Nat.repr_eq_ofList_toDigits, abs]
  · have abs : value.toNat = value.natAbs := by omega
    simp [negative, Int.not_lt.1 negative, Nat.repr_eq_ofList_toDigits, abs]

theorem value?_integer {value : Int} (inRange : Json.IsInteger value) :
    ({ negative := decide (value < 0), whole := figuresOf value.natAbs } : NumberLiteral).value? =
      some (.int value) := by
  rcases inRange with ⟨low, high⟩
  have number := natOfDigits_figuresOf value.natAbs
  have isInt : ({ negative := decide (value < 0), whole := figuresOf value.natAbs } :
      NumberLiteral).int? = some value := by
    simp only [NumberLiteral.int?, number]
    by_cases negative : value < 0
    · have bounds : 0 < value.natAbs ∧ value.natAbs ≤ Nat.pow 2 63 := by omega
      have same : -(value.natAbs : Int) = value := by omega
      simp only [negative, decide_true, if_true, if_pos bounds, same]
    · have bound : value.natAbs < Nat.pow 2 64 := by omega
      have same : (value.natAbs : Int) = value := by omega
      simp only [negative, decide_false, Bool.false_eq_true, if_false, if_pos bound, same]
  simp only [NumberLiteral.value?, isInt]

theorem isBlank_of_isDigit {c : Char} (isDigit : c.isDigit = true) : isBlank c = false := by
  rw [← Bool.not_eq_true]
  intro blank
  simp only [isBlank, Bool.or_eq_true, beq_iff_eq] at blank
  rcases blank with ((rfl | rfl) | rfl) | rfl
  all_goals cases isDigit

/-! ### Values -/

/-- A text that starts neither with a blank nor with a bracket that closes. -/
def Opens (text : List Char) : Prop :=
  ∃ c rest, text = c :: rest ∧ isBlank c = false ∧ c ≠ ']'

theorem opens_compact {value : Json} {room : Nat} (printable : value.Printable room)
    (rest : List Char) : Opens (value.compact.toList ++ rest) := by
  cases printable with
  | null => exact ⟨'n', _, rfl, by decide, by decide⟩
  | bool value => cases value <;> exact ⟨_, _, rfl, by decide, by decide⟩
  | @int _ value _ =>
      rw [toList_compact_int]
      rcases toDigits_shape value.natAbs with ⟨c, more, chars, -⟩
      have isDigit := isDigit_of_mem_toDigits value.natAbs c (by simp [chars])
      by_cases negative : value < 0
      · simp only [negative, decide_true, if_true, List.cons_append]
        exact ⟨'-', _, rfl, by decide, by decide⟩
      · simp only [negative, decide_false, Bool.false_eq_true, if_false, chars, List.nil_append,
          List.cons_append]
        refine ⟨c, _, rfl, isBlank_of_isDigit isDigit, ?_⟩
        rintro rfl
        cases isDigit
  | str text =>
      rw [Json.compact, Json.quote, String.toList_append, String.toList_append]
      exact ⟨'"', _, rfl, by decide, by decide⟩
  | arr below =>
      rw [Json.compact, String.toList_append, String.toList_append]
      exact ⟨'[', _, rfl, by decide, by decide⟩
  | obj ordered below =>
      rw [Json.compact, String.toList_append, String.toList_append]
      exact ⟨'\x7b', _, rfl, by decide, by decide⟩

theorem Opens.skipBlanks {text : List Char} (opens : Opens text) : skipBlanks text = text := by
  rcases opens with ⟨c, rest, rfl, inked, -⟩
  simp [Written.skipBlanks, inked]

/-- Compact text is read as what is written in it, with steps for each of its characters. -/
def Reads (value : Json) : Prop :=
  ∀ (steps : Nat) (rest : List Char), value.compact.toList.length ≤ steps → EndsNumber rest →
    read? steps (value.compact.toList ++ rest) = some (ofJson value, rest)

theorem toList_intercalate_cons (text next : String) (more : List String) :
    (String.intercalate "," (text :: next :: more)).toList =
      text.toList ++ ',' :: (String.intercalate "," (next :: more)).toList := by
  simp [String.intercalate_cons_cons]

theorem toList_member (key : String) (value : Json) :
    (Json.quote key ++ ":" ++ value.compact).toList =
      (Json.quote key).toList ++ ':' :: value.compact.toList := by
  simp

theorem endsNumber_of_mark {mark : Char} (isMark : mark = ',' ∨ mark = ']' ∨ mark = '\x7d')
    (rest : List Char) : EndsNumber (mark :: rest) := by
  rcases isMark with rfl | rfl | rfl
  all_goals simp [EndsNumber]

section Lists

variable {steps : Nat} {text : List Char} {item : Written}

theorem readItems?_of_comma (read : read? steps text = some (item, ',' :: rest))
    (before : List Written) :
    readItems? (steps + 1) before text = readItems? steps (item :: before) rest := by
  simp [readItems?, read, skipBlanks, isBlank]

theorem readItems?_of_bracket (read : read? steps text = some (item, ']' :: rest))
    (before : List Written) :
    readItems? (steps + 1) before text = some (before.reverse ++ [item], rest) := by
  simp [readItems?, read, skipBlanks, isBlank]

theorem readMembers?_of_comma (key : String)
    (read : read? steps text = some (item, ',' :: rest))
    (before : List (Option String × Written)) :
    readMembers? (steps + 1) before ((Json.quote key).toList ++ ':' :: text) =
      readMembers? steps ((some key, item) :: before) rest := by
  simp [readMembers?, Json.quote, string?_quoted, read, skipBlanks, isBlank]

theorem readMembers?_of_brace (key : String)
    (read : read? steps text = some (item, '\x7d' :: rest))
    (before : List (Option String × Written)) :
    readMembers? (steps + 1) before ((Json.quote key).toList ++ ':' :: text) =
      some (before.reverse ++ [(some key, item)], rest) := by
  simp [readMembers?, Json.quote, string?_quoted, read, skipBlanks, isBlank]

end Lists

theorem readItems?_compact {items : List Json} (nonempty : items ≠ [])
    (reads : ∀ item ∈ items, Reads item) (steps : Nat) (before : List Written)
    (enough : (String.intercalate "," (Json.compactItems items)).toList.length < steps)
    (rest : List Char) :
    readItems? steps before
        ((String.intercalate "," (Json.compactItems items)).toList ++ ']' :: rest) =
      some (before.reverse ++ ofItems items, rest) := by
  induction items generalizing steps before with
  | nil => exact (nonempty rfl).elim
  | cons item others ih =>
      rcases List.forall_mem_cons.1 reads with ⟨first, later⟩
      cases steps with
      | zero => exact (Nat.not_lt_zero _ enough).elim
      | succ steps =>
          cases others with
          | nil =>
              simp only [Json.compactItems, String.intercalate_singleton] at enough ⊢
              exact readItems?_of_bracket (first steps (']' :: rest) (Nat.le_of_lt_succ enough)
                (endsNumber_of_mark (by simp) rest)) before
          | cons next more =>
              have following := ih (List.cons_ne_nil _ _) later steps
                (ofJson item :: before)
              simp only [Json.compactItems, toList_intercalate_cons, List.length_append,
                List.length_cons, List.append_assoc, List.cons_append] at enough following ⊢
              rw [readItems?_of_comma (first steps _ (by omega)
                (endsNumber_of_mark (by simp) _)), following (by omega)]
              simp [ofItems]

theorem readMembers?_compact {fields : Fields} (nonempty : fields ≠ [])
    (reads : ∀ key value, (key, value) ∈ fields → Reads value) (steps : Nat)
    (before : List (Option String × Written))
    (enough : (String.intercalate "," (Json.compactFields fields)).toList.length < steps)
    (rest : List Char) :
    readMembers? steps before
        ((String.intercalate "," (Json.compactFields fields)).toList ++ '\x7d' :: rest) =
      some (before.reverse ++ ofFields fields, rest) := by
  induction fields generalizing steps before with
  | nil => exact (nonempty rfl).elim
  | cons field others ih =>
      rcases field with ⟨key, value⟩
      have first : Reads value := reads key value List.mem_cons_self
      have later : ∀ key value, (key, value) ∈ others → Reads value :=
        fun key value among => reads key value (List.mem_cons_of_mem _ among)
      cases steps with
      | zero => exact (Nat.not_lt_zero _ enough).elim
      | succ steps =>
          cases others with
          | nil =>
              simp only [Json.compactFields, String.intercalate_singleton, toList_member,
                List.length_append, List.length_cons, List.append_assoc, List.cons_append]
                at enough ⊢
              exact readMembers?_of_brace key (first steps ('\x7d' :: rest) (by omega)
                (endsNumber_of_mark (by simp) rest)) before
          | cons next more =>
              rcases next with ⟨nextKey, nextValue⟩
              have following := ih (List.cons_ne_nil _ _) later steps
                ((some key, ofJson value) :: before)
              simp only [Json.compactFields, toList_intercalate_cons, toList_member,
                List.length_append, List.length_cons, List.append_assoc, List.cons_append]
                at enough following ⊢
              rw [readMembers?_of_comma key (first steps _ (by omega)
                (endsNumber_of_mark (by simp) _)), following (by omega)]
              simp [ofFields]

theorem read?_number {c : Char} {text : List Char} {steps : Nat}
    (starts : c = '-' ∨ c.isDigit = true) :
    read? (steps + 1) (c :: text) =
      (number? (c :: text)).map fun (literal, rest) => (.number literal.value?, rest) := by
  have inked : isBlank c = false := by
    rcases starts with rfl | isDigit
    · decide
    · exact isBlank_of_isDigit isDigit
  have skipped : skipBlanks (c :: text) = c :: text := by simp [skipBlanks, inked]
  rw [read?, skipped]
  split
  all_goals try rfl
  all_goals
    rename_i same
    cases same
    rcases starts with mark | isDigit
    · cases mark
    · cases isDigit

/-- A text with a character in it leaves a step for the value itself. -/
theorem reads_of_succ {value : Json} {room : Nat} (printable : value.Printable room)
    (reads : ∀ (steps : Nat) (rest : List Char), value.compact.toList.length ≤ steps + 1 →
      EndsNumber rest →
        read? (steps + 1) (value.compact.toList ++ rest) = some (ofJson value, rest)) :
    Reads value := by
  intro steps rest enough ends
  cases steps with
  | zero =>
      rcases opens_compact printable [] with ⟨c, more, shape, -⟩
      rw [List.append_nil] at shape
      simp [shape] at enough
  | succ steps => exact reads steps rest enough ends

theorem read?_int {value : Int} (inRange : Json.IsInteger value) (steps : Nat)
    (ends : EndsNumber rest) :
    read? (steps + 1) ((Json.int value).compact.toList ++ rest) =
      some (ofJson (.int value), rest) := by
  have literal := number?_toDigits (decide (value < 0)) value.natAbs ends
  rcases toDigits_shape value.natAbs with ⟨c, more, chars, -⟩
  have isDigit := isDigit_of_mem_toDigits value.natAbs c (by simp [chars])
  have starts : ∃ first text, (if decide (value < 0) then ['-'] else []) ++
      (Nat.toDigits 10 value.natAbs ++ rest) = first :: text ∧
        (first = '-' ∨ first.isDigit = true) := by
    by_cases negative : value < 0
    · exact ⟨'-', Nat.toDigits 10 value.natAbs ++ rest, by simp [negative], Or.inl rfl⟩
    · exact ⟨c, more ++ rest, by simp [negative, chars], Or.inr isDigit⟩
  rcases starts with ⟨first, text, shape, mark⟩
  rw [toList_compact_int, List.append_assoc]
  rw [shape] at literal ⊢
  rw [read?_number mark, literal]
  simp [value?_integer inRange, ofJson]

theorem read?_arr {items : List Json} {room : Nat}
    (printable : ∀ item ∈ items, item.Printable room) (reads : ∀ item ∈ items, Reads item)
    {steps : Nat}
    (enough : (Json.arr items).compact.toList.length ≤ steps + 1) (rest : List Char) :
    read? (steps + 1) ((Json.arr items).compact.toList ++ rest) =
      some (ofJson (.arr items), rest) := by
  have text : (Json.arr items).compact.toList ++ rest =
      '[' :: ((String.intercalate "," (Json.compactItems items)).toList ++ ']' :: rest) := by
    simp [Json.compact]
  have size : (Json.arr items).compact.toList.length =
      (String.intercalate "," (Json.compactItems items)).toList.length + 2 := by
    simp [Json.compact]
  rw [text]
  cases items with
  | nil => simp [read?, Json.compactItems, skipBlanks, isBlank, ofJson, ofItems]
  | cons item others =>
      have inner := readItems?_compact (List.cons_ne_nil item others) reads steps []
        (by omega) rest
      have opens : Opens ((String.intercalate "," (Json.compactItems (item :: others))).toList ++
          ']' :: rest) := by
        have first := printable item List.mem_cons_self
        cases others with
        | nil =>
            simp only [Json.compactItems, String.intercalate_singleton]
            exact opens_compact first _
        | cons next more =>
            simp only [Json.compactItems, toList_intercalate_cons, List.append_assoc]
            exact opens_compact first _
      have skipped := opens.skipBlanks
      rcases opens with ⟨c, more, shape, -, unclosed⟩
      rw [shape] at inner skipped ⊢
      have outer : skipBlanks ('[' :: c :: more) = '[' :: c :: more := rfl
      simp only [read?, outer, skipped]
      split
      · rename_i closes
        exact (unclosed (List.cons.inj closes).1).elim
      · rw [inner]
        rfl

theorem read?_obj {fields : Fields} (reads : ∀ key value, (key, value) ∈ fields → Reads value)
    {steps : Nat} (enough : (Json.obj fields).compact.toList.length ≤ steps + 1)
    (rest : List Char) :
    read? (steps + 1) ((Json.obj fields).compact.toList ++ rest) =
      some (ofJson (.obj fields), rest) := by
  have text : (Json.obj fields).compact.toList ++ rest =
      '\x7b' :: ((String.intercalate "," (Json.compactFields fields)).toList ++
        '\x7d' :: rest) := by
    simp [Json.compact]
  have size : (Json.obj fields).compact.toList.length =
      (String.intercalate "," (Json.compactFields fields)).toList.length + 2 := by
    simp [Json.compact]
  rw [text]
  cases fields with
  | nil => simp [read?, Json.compactFields, skipBlanks, isBlank, ofJson, ofFields]
  | cons field others =>
      have inner := readMembers?_compact (List.cons_ne_nil field others) reads steps []
        (by omega) rest
      obtain ⟨more, shape⟩ : ∃ more,
          (String.intercalate "," (Json.compactFields (field :: others))).toList ++
            '\x7d' :: rest = '"' :: more := by
        rcases field with ⟨key, value⟩
        cases others with
        | nil => exact ⟨_, by simp [Json.compactFields, Json.quote]; rfl⟩
        | cons next others =>
            rcases next with ⟨nextKey, nextValue⟩
            exact ⟨_, by simp [Json.compactFields, Json.quote, String.intercalate_cons_cons]; rfl⟩
      rw [shape] at inner ⊢
      have outer : skipBlanks ('\x7b' :: '"' :: more) = '\x7b' :: '"' :: more := rfl
      have skipped : skipBlanks ('"' :: more) = '"' :: more := rfl
      simp only [read?, outer, skipped]
      change (readMembers? steps [] ('"' :: more)).map _ = _
      rw [inner]
      rfl

theorem reads_of_printable {value : Json} {room : Nat} (printable : value.Printable room) :
    Reads value := by
  induction printable with
  | null => exact reads_of_succ (.null : Json.Printable 0 _) fun _ _ _ _ => rfl
  | bool value =>
      exact reads_of_succ (.bool value : Json.Printable 0 _) fun _ _ _ _ => by
        cases value <;> rfl
  | int inRange =>
      exact reads_of_succ (.int inRange : Json.Printable 0 _) fun steps _ _ ends =>
        read?_int inRange steps ends
  | str text =>
      apply reads_of_succ (.str text : Json.Printable 0 _)
      intro steps rest _ _
      simp [read?, Json.compact, Json.quote, skipBlanks, isBlank, string?_quoted, ofJson]
  | arr below ih =>
      exact reads_of_succ (.arr below) fun _ rest enough _ => read?_arr below ih enough rest
  | obj ordered below ih =>
      exact reads_of_succ (.obj ordered below) fun _ rest enough _ => read?_obj ih enough rest

/-- Compact text is JSON, and what it says is the value. -/
theorem parse?_compact {value : Json} {room : Nat} (printable : value.Printable room) :
    parse? value.compact = some (ofJson value) := by
  have read := reads_of_printable printable (2 * value.compact.toList.length + 1) [] (by omega)
    nofun
  rw [List.append_nil] at read
  simp [parse?, read, skipBlanks]

/-! ### The value back -/

theorem values?_ofItems {items : List Json} {room : Nat}
    (each : ∀ item ∈ items, (ofJson item).value? room = some item) :
    values? (ofItems items) room = some items := by
  induction items with
  | nil => rfl
  | cons item rest ih =>
      rcases List.forall_mem_cons.1 each with ⟨first, later⟩
      rw [ofItems, values?, first, ih later]

theorem fields?_ofFields {fields : Fields} {room : Nat}
    (each : ∀ key value, (key, value) ∈ fields → (ofJson value).value? room = some value) :
    fields? (ofFields fields) room = some fields := by
  induction fields with
  | nil => rfl
  | cons field rest ih =>
      rcases field with ⟨key, value⟩
      have first := each key value List.mem_cons_self
      have later := ih fun key value among => each key value (List.mem_cons_of_mem _ among)
      simp only [ofFields, fields?, first, later]

/-- What is written for a value gives the value. -/
theorem value?_ofJson {value : Json} {room : Nat} (printable : value.Printable room) :
    (ofJson value).value? room = some value := by
  induction printable with
  | null | bool | int | str => rfl
  | arr _ ih =>
      rw [ofJson, value?, values?_ofItems ih]
      rfl
  | obj ordered _ ih =>
      rw [ofJson, value?, fields?_ofFields ih, Option.map_some, Table.ofList_of_ordered ordered]

end Written

namespace Json

/-! ### One line -/

theorem not_mem_escapeChar (c : Char) : '\n' ∉ escapeChar c := by
  have figures : ∀ n : Nat, n < 0x20 → '\n' ≠ hexDigit (n / 16) ∧ '\n' ≠ hexDigit (n % 16) := by
    decide
  by_cases feed : c = '\n'
  · subst feed
    decide
  · unfold escapeChar
    repeat' split
    all_goals first
      | decide
      | simp [figures c.toNat ‹c.toNat < 0x20›]
      | simp [Ne.symm feed]

theorem not_mem_quote (text : String) : '\n' ∉ (quote text).toList := by
  simp [quote, not_mem_escapeChar]

theorem not_mem_intercalate {texts : List String}
    (each : ∀ text ∈ texts, '\n' ∉ text.toList) :
    '\n' ∉ (String.intercalate "," texts).toList := by
  induction texts with
  | nil => simp
  | cons text rest ih =>
      rcases List.forall_mem_cons.1 each with ⟨first, later⟩
      cases rest with
      | nil => simpa using first
      | cons next more =>
          rw [Written.toList_intercalate_cons, List.mem_append, List.mem_cons, not_or, not_or]
          exact ⟨first, by decide, ih later⟩

theorem exists_item_of_mem {items : List Json} {text : String}
    (among : text ∈ compactItems items) : ∃ item ∈ items, text = item.compact := by
  induction items with
  | nil => cases among
  | cons item rest ih =>
      rcases List.mem_cons.1 among with rfl | later
      · exact ⟨item, List.mem_cons_self, rfl⟩
      · rcases ih later with ⟨item, member, rfl⟩
        exact ⟨item, List.mem_cons_of_mem _ member, rfl⟩

theorem exists_field_of_mem {fields : Fields} {text : String}
    (among : text ∈ compactFields fields) :
    ∃ key value, (key, value) ∈ fields ∧ text = quote key ++ ":" ++ value.compact := by
  induction fields with
  | nil => cases among
  | cons field rest ih =>
      rcases field with ⟨key, value⟩
      rcases List.mem_cons.1 among with rfl | later
      · exact ⟨key, value, List.mem_cons_self, rfl⟩
      · rcases ih later with ⟨key, value, member, rfl⟩
        exact ⟨key, value, List.mem_cons_of_mem _ member, rfl⟩

/-- Compact text has no line feed in it. -/
theorem not_mem_compact {value : Json} {room : Nat} (printable : value.Printable room) :
    '\n' ∉ value.compact.toList := by
  induction printable with
  | null => decide
  | bool value => cases value <;> decide
  | int =>
      rw [Written.toList_compact_int]
      intro among
      rcases List.mem_append.1 among with sign | figure
      · split at sign
        · simp at sign
        · cases sign
      · exact absurd (Written.isDigit_of_mem_toDigits _ _ figure) (by decide)
  | str text => exact not_mem_quote text
  | @arr _ items _ ih =>
      have inner : '\n' ∉ (String.intercalate "," (compactItems items)).toList := by
        apply not_mem_intercalate
        intro text among
        rcases exists_item_of_mem among with ⟨item, member, rfl⟩
        exact ih item member
      simpa only [compact, String.toList_append, List.mem_append, not_or] using
        ⟨⟨by decide, inner⟩, by decide⟩
  | @obj _ fields _ _ ih =>
      have inner : '\n' ∉ (String.intercalate "," (compactFields fields)).toList := by
        apply not_mem_intercalate
        intro text among
        rcases exists_field_of_mem among with ⟨key, value, member, rfl⟩
        simp [not_mem_quote, ih key value member]
      simpa only [compact, String.toList_append, List.mem_append, not_or] using
        ⟨⟨by decide, inner⟩, by decide⟩

end Json

end Storyboard
