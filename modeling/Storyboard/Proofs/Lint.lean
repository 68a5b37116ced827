import Storyboard.Lint
/-!
# The function around a line

The search for the function that a line stands in goes up from the line to the nearest one that
tells something: it declares a function, or a module or an implementation starts on it. What a
declaration says of its function is how it starts. The search takes the words for an
asynchronous function wherever they stand in the line, so it is misled by a declaration of
another function that mentions them, and by nothing else.

Main result: `enclosing_eq_declared_iff`.
-/

namespace Storyboard

namespace Lint

/-- A line without the blanks around it. -/
abbrev trimmed (line : String) : List Char := Text.trimChars line.toList

/-- But for its visibility, a line starts with a word. -/
def Opens (word : String) (line : List Char) : Prop :=
  ∃ visibility ∈ "" :: visibilities, visibility.toList ++ word.toList <+: line

/-- What the declaration of a function starts with. -/
def keywords : List String := ["fn ", "async fn ", "const fn "]

/-- A line declares a function. -/
def Declares (line : String) : Prop := ∃ word ∈ keywords, Opens word (trimmed line)

/-- A module or an implementation starts on a line. -/
def Bounds (line : String) : Prop :=
  "mod ".toList <+: trimmed line ∨ "impl".toList <+: trimmed line ∧ '\x7b' ∈ trimmed line

/-- A line tells what stands below it. -/
def Tells (line : String) : Prop := Declares line ∨ Bounds line

/-- The last line before an index that tells something. -/
def Nearest (lines : List String) (index : Nat) (line : String) : Prop :=
  ∃ above between, lines.take index = above ++ line :: between ∧ Tells line ∧
    ∀ other ∈ between, ¬Tells other

/-- What a line that tells something says by itself. -/
inductive Says (line : String) : Enclosing → Prop where
  | async (declares : Declares line) (opens : Opens "async fn " (trimmed line)) :
    Says line .async
  | sync (declares : Declares line) (plain : ¬Opens "async fn " (trimmed line)) :
    Says line .sync
  | boundary (only : ¬Declares line) : Says line .unknown

/-- What the lines before an index say of the line there. -/
inductive Declared (lines : List String) (index : Nat) : Enclosing → Prop where
  | nearest {line : String} {kind : Enclosing} (nearest : Nearest lines index line)
    (saying : Says line kind) : Declared lines index kind
  | nothing (silent : ∀ line ∈ lines.take index, ¬Tells line) : Declared lines index .unknown

/-- The words for an asynchronous function stand somewhere in a line. -/
def Mentions (line : String) : Prop := "async fn ".toList <:+: trimmed line

/-- The nearest line declares a function that is not asynchronous, and mentions the words for
one that is. -/
def Misleads (lines : List String) (index : Nat) : Prop :=
  ∃ line, Nearest lines index line ∧ Says line .sync ∧ Mentions line

/-- The search line by line. A look at a line that there is not ends it without an answer. -/
def scan? (lines : List String) : Nat → Option Enclosing
  | 0 => some .unknown
  | index + 1 => do
    let line ← lines[index]?
    match verdict? line with
    | some kind => return kind
    | none => scan? lines index

/-! ### Visibility -/

/-- At most one visibility stands at the start of a line. -/
theorem eq_of_visibility_prefix {line : List Char} {first second : String}
    (firstKnown : first ∈ visibilities) (secondKnown : second ∈ visibilities)
    (firstStarts : first.toList <+: line) (secondStarts : second.toList <+: line) :
    first = second := by
  have apart : ∀ one ∈ visibilities, ∀ other ∈ visibilities,
      one.toList <+: other.toList → one = other := by decide +kernel
  rcases List.prefix_or_prefix_of_prefix firstStarts secondStarts with before | before
  · exact apart first firstKnown second secondKnown before
  · exact (apart second secondKnown first firstKnown before).symm

theorem after?_eq_some_iff {pattern : String} {text rest : List Char} :
    Text.after? pattern text = some rest ↔ text = pattern.toList ++ rest := by
  rw [Text.after?, ← String.length_toList]
  constructor
  · intro found
    rw [Option.ite_none_right_eq_some] at found
    rcases Text.startsWith_iff.1 found.1 with ⟨others, rfl⟩
    rw [List.drop_left] at found
    rw [Option.some.inj found.2]
  · rintro rfl
    rw [if_pos (Text.startsWith_iff.2 (List.prefix_append _ _)), List.drop_left]

theorem dropVisibility_cases (line : List Char) :
    (∃ visibility ∈ visibilities, line = visibility.toList ++ dropVisibility line) ∨
      (∀ visibility ∈ visibilities, ¬visibility.toList <+: line) ∧
        dropVisibility line = line := by
  unfold dropVisibility
  cases found : visibilities.findSome? (Text.after? · line) with
  | some rest =>
      rcases List.exists_of_findSome?_eq_some found with ⟨visibility, known, after⟩
      exact .inl ⟨visibility, known, after?_eq_some_iff.1 after⟩
  | none =>
      refine .inr ⟨?_, rfl⟩
      rintro visibility known ⟨rest, starts⟩
      have after := List.findSome?_eq_none_iff.1 found visibility known
      rw [after?_eq_some_iff.2 starts.symm] at after
      cases after

/-- A word that no visibility starts with, nor starts itself, is looked for behind it. -/
theorem startsWith_dropVisibility_iff {word : String} {line : List Char}
    (apart : ∀ visibility ∈ visibilities,
      ¬visibility.toList <+: word.toList ∧ ¬word.toList <+: visibility.toList) :
    Text.startsWith word (dropVisibility line) = true ↔ Opens word line := by
  rw [Text.startsWith_iff]
  rcases dropVisibility_cases line with ⟨visibility, known, split⟩ | ⟨none, same⟩
  · constructor
    · intro starts
      refine ⟨visibility, List.mem_cons_of_mem _ known, ?_⟩
      rw [split]
      exact (List.prefix_append_right_inj _).2 starts
    · rintro ⟨other, otherKnown, opens⟩
      have begins : visibility.toList <+: line := ⟨_, split.symm⟩
      rcases List.mem_cons.1 otherKnown with rfl | otherKnown
      · -- Without a visibility the word would stand where there is one.
        rcases List.prefix_or_prefix_of_prefix begins opens with before | before
        · exact absurd before (apart visibility known).1
        · exact absurd before (apart visibility known).2
      · cases eq_of_visibility_prefix known otherKnown begins
          ((List.prefix_append _ _).trans opens)
        rw [split] at opens
        exact (List.prefix_append_right_inj _).1 opens
  · rw [same]
    constructor
    · exact fun starts => ⟨"", List.mem_cons_self, starts⟩
    · rintro ⟨visibility, known, opens⟩
      rcases List.mem_cons.1 known with rfl | known
      · exact opens
      · exact absurd ((List.prefix_append _ _).trans opens) (none visibility known)

theorem Opens.infix {word : String} {line : List Char} (opens : Opens word line) :
    word.toList <:+: line := by
  rcases opens with ⟨visibility, -, rest, split⟩
  exact ⟨visibility.toList, rest, split⟩

/-! ### Lines -/

section Lines

variable {line : String}

theorem startsWith_keyword_iff {word : String} (known : word ∈ keywords) {line : List Char} :
    Text.startsWith word (dropVisibility line) = true ↔ Opens word line := by
  have apart : ∀ word ∈ keywords, ∀ visibility ∈ visibilities,
      ¬visibility.toList <+: word.toList ∧ ¬word.toList <+: visibility.toList := by
    decide +kernel
  exact startsWith_dropVisibility_iff (apart word known)

theorem declaresFunction_iff : declaresFunction (trimmed line) = true ↔ Declares line := by
  have words : Declares line ↔ ∃ word ∈ keywords,
      Text.startsWith word (dropVisibility (trimmed line)) = true :=
    exists_congr fun word => and_congr_right fun known => (startsWith_keyword_iff known).symm
  rw [words]
  simp [declaresFunction, keywords, or_assoc]

theorem isBoundary_iff : isBoundary (trimmed line) = true ↔ Bounds line := by
  simp [isBoundary, Bounds, Text.startsWith_iff]

instance : DecidablePred Tells := fun _ =>
  decidable_of_iff _ (or_congr declaresFunction_iff isBoundary_iff)

theorem verdict?_of_mentions (declares : Declares line) (mentions : Mentions line) :
    verdict? line = some .async := by
  simp [verdict?, declaresFunction_iff.2 declares, Text.holds_iff.2 mentions]

theorem verdict?_of_not_mentions (declares : Declares line) (silent : ¬Mentions line) :
    verdict? line = some .sync := by
  have none : Text.holds "async fn " (trimmed line) = false :=
    Bool.eq_false_iff.2 fun holds => silent (Text.holds_iff.1 holds)
  simp [verdict?, declaresFunction_iff.2 declares, none]

theorem verdict?_of_bounds (only : ¬Declares line) (bounds : Bounds line) :
    verdict? line = some .unknown := by
  have none : declaresFunction (trimmed line) = false :=
    Bool.eq_false_iff.2 fun declares => only (declaresFunction_iff.1 declares)
  simp [verdict?, none, isBoundary_iff.2 bounds]

theorem verdict?_eq_none_iff : verdict? line = none ↔ ¬Tells line := by
  rw [Tells, ← declaresFunction_iff, ← isBoundary_iff, verdict?]
  cases declaresFunction (trimmed line) <;> cases isBoundary (trimmed line) <;> simp

theorem exists_kind (line : String) : ∃ kind, Says line kind := by
  by_cases declares : Declares line
  · by_cases opens : Opens "async fn " (trimmed line)
    · exact ⟨_, .async declares opens⟩
    · exact ⟨_, .sync declares opens⟩
  · exact ⟨_, .boundary declares⟩

theorem Says.unique {first second : Enclosing} (one : Says line first)
    (other : Says line second) : first = second := by
  cases one with
  | async declares opens =>
      cases other with
      | async => rfl
      | sync _ plain => exact absurd opens plain
      | boundary only => exact absurd declares only
  | sync declares plain =>
      cases other with
      | async _ opens => exact absurd opens plain
      | sync => rfl
      | boundary only => exact absurd declares only
  | boundary only =>
      cases other with
      | async declares | sync declares => exact absurd declares only
      | boundary => rfl

/-- The search takes a line for what it says, but for a mention of the words that it looks
for. -/
theorem Says.verdict?_eq {kind : Enclosing} (saying : Says line kind) (tells : Tells line)
    (calm : ¬(kind = .sync ∧ Mentions line)) : verdict? line = some kind := by
  cases saying with
  | async declares opens => exact verdict?_of_mentions declares opens.infix
  | sync declares plain =>
      exact verdict?_of_not_mentions declares fun mentions => calm ⟨rfl, mentions⟩
  | boundary only => exact verdict?_of_bounds only (tells.resolve_left only)

theorem Says.verdict?_eq_async (saying : Says line .sync) (mentions : Mentions line) :
    verdict? line = some .async := by
  cases saying with
  | sync declares => exact verdict?_of_mentions declares mentions

end Lines

/-! ### Searches -/

section Searches

variable {lines : List String} {index : Nat} {line : String}

theorem nearest_iff :
    Nearest lines index line ↔ (lines.take index).reverse.find? (Tells ·) = some line := by
  rw [List.find?_eq_some_iff_append]
  constructor
  · rintro ⟨above, between, split, tells, silent⟩
    exact ⟨by simpa using tells, between.reverse, above.reverse, by simp [split],
      by simpa using silent⟩
  · rintro ⟨tells, between, above, split, silent⟩
    refine ⟨above.reverse, between.reverse, ?_, by simpa using tells, by simpa using silent⟩
    rw [← List.reverse_reverse (lines.take index), split]
    simp

theorem find?_eq_none_iff : (lines.take index).reverse.find? (Tells ·) = none ↔
    ∀ line ∈ lines.take index, ¬Tells line := by
  simp

theorem findSome?_verdict? (lines : List String) :
    lines.findSome? verdict? = (lines.find? (Tells ·)).bind verdict? := by
  induction lines with
  | nil => rfl
  | cons line rest ih =>
      rw [List.findSome?_cons, List.find?_cons, ih]
      by_cases tells : Tells line
      · rcases Option.ne_none_iff_exists'.1 (mt verdict?_eq_none_iff.1 (not_not_intro tells)) with
          ⟨kind, found⟩
        simp [tells, found]
      · simp [tells, verdict?_eq_none_iff.2 tells]

theorem enclosing_eq (lines : List String) (index : Nat) : enclosing lines index =
    (((lines.take index).reverse.find? (Tells ·)).bind verdict?).getD .unknown := by
  rw [enclosing, findSome?_verdict?]

theorem enclosing_of_nearest {kind : Enclosing} (nearest : Nearest lines index line)
    (found : verdict? line = some kind) : enclosing lines index = kind := by
  rw [enclosing_eq, nearest_iff.1 nearest, Option.bind_some, found, Option.getD_some]

theorem Nearest.tells (nearest : Nearest lines index line) : Tells line := by
  rcases nearest with ⟨_, _, -, tells, -⟩
  exact tells

theorem Nearest.unique {other : String} (nearest : Nearest lines index line)
    (second : Nearest lines index other) : line = other :=
  Option.some.inj ((nearest_iff.1 nearest).symm.trans (nearest_iff.1 second))

theorem misleads_iff {kind : Enclosing} (nearest : Nearest lines index line)
    (saying : Says line kind) : Misleads lines index ↔ kind = .sync ∧ Mentions line := by
  constructor
  · rintro ⟨other, second, sync, mentions⟩
    cases nearest.unique second
    exact ⟨saying.unique sync, mentions⟩
  · rintro ⟨rfl, mentions⟩
    exact ⟨line, nearest, saying, mentions⟩

theorem declared_iff {kind : Enclosing} (nearest : Nearest lines index line)
    (saying : Says line kind) (other : Enclosing) : Declared lines index other ↔ other = kind := by
  constructor
  · intro declared
    cases declared with
    | nearest second otherSaying =>
        cases nearest.unique second
        exact otherSaying.unique saying
    | nothing silent =>
        cases (nearest_iff.1 nearest).symm.trans (find?_eq_none_iff.2 silent)
  · rintro rfl
    exact .nearest nearest saying

theorem enclosing_succ (within : index < lines.length) : enclosing lines (index + 1) =
    (verdict? lines[index]).getD (enclosing lines index) := by
  rw [enclosing, List.take_succ_eq_append_getElem within, List.reverse_append]
  cases found : verdict? lines[index] with
  | none => simp [found, enclosing]
  | some kind => simp [found]

theorem scan?_eq (lines : List String) (index : Nat) : scan? lines index =
    if index ≤ lines.length then some (enclosing lines index) else none := by
  induction index with
  | zero => rfl
  | succ index ih =>
      by_cases within : index < lines.length
      · rw [scan?, List.getElem?_eq_getElem within, if_pos (Nat.succ_le_of_lt within),
          enclosing_succ within, ih, if_pos (Nat.le_of_lt within)]
        simp only [Option.bind_eq_bind, Option.bind_some]
        cases verdict? lines[index] <;> rfl
      · rw [scan?, List.getElem?_eq_none (Nat.not_lt.1 within),
          if_neg (mt Nat.lt_of_succ_le within)]
        rfl

end Searches

/-- What the search gives is what the lines before the index say, unless the nearest one
misleads it: then that line says that its function is not asynchronous, and the search that it
is. The search is for the indices of the lines and for the one behind them. -/
theorem enclosing_eq_declared_iff (lines : List String) (index : Nat) :
    scan? lines index = (if index ≤ lines.length then some (enclosing lines index) else none) ∧
      ∃ kind, (∀ other, Declared lines index other ↔ other = kind) ∧
        (enclosing lines index = kind ↔ ¬Misleads lines index) ∧
        (Misleads lines index → kind = .sync ∧ enclosing lines index = .async) := by
  refine ⟨scan?_eq lines index, ?_⟩
  cases found : (lines.take index).reverse.find? (Tells ·) with
  | some line =>
      have nearest := nearest_iff.2 found
      rcases exists_kind line with ⟨kind, saying⟩
      refine ⟨kind, declared_iff nearest saying, ?_⟩
      rw [misleads_iff nearest saying]
      by_cases misled : kind = .sync ∧ Mentions line
      · rcases misled with ⟨rfl, mentions⟩
        have async := enclosing_of_nearest nearest (saying.verdict?_eq_async mentions)
        simp [async, mentions]
      · have kept := enclosing_of_nearest nearest (saying.verdict?_eq nearest.tells misled)
        exact ⟨iff_of_true kept misled, fun misleads => absurd misleads misled⟩
  | none =>
      have silent := find?_eq_none_iff.1 found
      have calm : ¬Misleads lines index := by
        rintro ⟨line, nearest, -⟩
        cases found.symm.trans (nearest_iff.1 nearest)
      refine ⟨.unknown, fun other => ⟨?_, ?_⟩, ?_, fun misleads => absurd misleads calm⟩
      · intro declared
        cases declared with
        | nearest nearest => cases found.symm.trans (nearest_iff.1 nearest)
        | nothing => rfl
      · rintro rfl
        exact .nothing silent
      · simp [enclosing_eq, found, calm]

/-- A declaration with a comment on it. -/
def sampleLine : String := "pub fn load_config() \x7b // the async fn comes later"

def sampleLines : List String := [sampleLine, "    let text = std::fs::read_to_string(path);"]

/-- The search hears of an asynchronous function from a comment. -/
theorem enclosing_async_of_comment :
    Declared sampleLines 1 .sync ∧ enclosing sampleLines 1 = .async := by
  have declares : Declares sampleLine := declaresFunction_iff.1 (by decide +kernel)
  have plain : ¬Opens "async fn " (trimmed sampleLine) :=
    mt (startsWith_keyword_iff (by decide)).2 (by decide +kernel)
  exact ⟨.nearest ⟨[], [], rfl, .inl declares, nofun⟩ (.sync declares plain), by decide +kernel⟩

end Lint

end Storyboard
