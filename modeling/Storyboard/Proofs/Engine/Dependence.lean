import Mathlib.Algebra.Order.BigOperators.Group.List
import Mathlib.Algebra.Order.Ring.Nat
import Storyboard.Proofs.Engine.Screen
/-!
# What a screen depends on

Resolution is a single pass, so what is put in brings no reference of its own. A tree depends on
the values of the references in its strings; a screen only on those outside its actions. Each of
them counts, for there are data that differ in its value alone and that show.

Main result: `resolve_dependsOnMentioned`.
-/

namespace Storyboard

/-! ### Values of references -/

namespace Scopes

variable {scopes left right : Scopes} {reference other : Reference}

/-- The scopes hold nothing but perhaps a `null` for the reference. -/
def Blank (scopes : Scopes) (reference : Reference) : Prop :=
  ∀ value, scopes.entry? reference.scope reference.key = some value → value = .null

theorem lookup_of_blank (blank : scopes.Blank reference) : scopes.lookup reference = none := by
  apply Option.filter_eq_none_iff.2
  intro value found
  rw [blank value found]
  simp [Json.isNull]

/-- The names of the scopes. -/
def names : List String := ["navigationData", "fields", "response", "error"]

/-- Data in which a reference has a value and no other has. -/
def only (reference : Reference) (value : Json) : Scopes :=
  if reference.scope = "navigationData" then { session := some [(reference.key, value)] }
  else if reference.scope = "fields" then { fields := some [(reference.key, value)] }
  else if reference.scope = "response" then { response := some (.obj [(reference.key, value)]) }
  else { error := some (.obj [(reference.key, value)]) }

theorem entry?_only (known : reference.scope ∈ names) (value : Json) (scope key : String) :
    Scopes.entry? (only reference value) scope key =
      if reference = ⟨scope, key⟩ then some value else none := by
  obtain ⟨name, own⟩ := reference
  simp only [names, List.mem_cons, List.not_mem_nil, or_false] at known
  rcases known with rfl | rfl | rfl | rfl
  · grind [only, entry?, Table.get?_cons, Table.get?_nil]
  · grind [only, entry?, Table.get?_cons, Table.get?_nil]
  · grind [only, entry?, Table.get?_cons, Table.get?_nil, part?]
  · grind [only, entry?, Table.get?_cons, Table.get?_nil, part?]

/-- What a session holds after a write. -/
theorem entry?_put (scopes : Scopes) (session : Fields) (written : String) (value : Json)
    (scope key : String) :
    Scopes.entry? { scopes with session := some (session.put written value) } scope key =
      if scope = "navigationData" ∧ key = written then some value
      else Scopes.entry? { scopes with session := some session } scope key := by
  unfold entry?
  by_cases isSession : scope = "navigationData"
  · by_cases same : key = written
    · simp [isSession, same]
    · simp [isSession, same, Table.get?_put_of_ne same]
  · simp [isSession]

theorem lookup_only (known : reference.scope ∈ names) (other : Reference) (text : String) :
    (only reference (.str text)).lookup other =
      if reference = other then some (.str text) else none := by
  rw [lookup, entry?_only known]
  split
  · rfl
  · rfl

theorem lookup_eq_of_entry?
    (same : left.entry? reference.scope reference.key =
        right.entry? reference.scope reference.key ∨
      left.Blank reference ∧ right.Blank reference) :
    left.lookup reference = right.lookup reference := by
  rcases same with same | ⟨leftBlank, rightBlank⟩
  · rw [lookup, same, lookup]
  · rw [lookup_of_blank leftBlank, lookup_of_blank rightBlank]

end Scopes

/-! ### Every reference counts -/

theorem Reference.length_text_pos (reference : Reference) : 0 < reference.text.length := by
  rw [Reference.text, String.length_ofList]
  exact reference.length_chars_pos

namespace Template

variable {reference : Reference} {text : String}

/-- A text is shorter once a reference gives way to the empty text. -/
theorem length_resolve_lt (known : reference.scope ∈ Scopes.names)
    (mentioned : reference ∈ references text) :
    (resolve text (Scopes.only reference (.str ""))).length < text.length := by
  have joins : String.join ((tokens text).map Token.text) = text := (splits_iff.2 rfl).joins
  -- No token grows, and those of the reference vanish.
  have shrinks (other : Reference) :
      (Token.resolve (Scopes.only reference (.str "")) (.placeholder other)).length =
        if reference = other then 0 else other.text.length := by
    rw [Token.resolve, Scopes.lookup_only known]
    split_ifs
    · rfl
    · rfl
  conv => right; rw [← joins]
  rw [resolve, String.length_join, String.length_join, List.map_map, List.map_map]
  apply List.sum_lt_sum
  · intro token _
    cases token with
    | literal text => exact le_rfl
    | placeholder other =>
        rw [Function.comp_apply, shrinks]
        split_ifs
        · exact Nat.zero_le _
        · exact le_rfl
  · refine ⟨.placeholder reference, mem_references_iff_mem_tokens.1 mentioned, ?_⟩
    rw [Function.comp_apply, shrinks, if_pos rfl]
    exact reference.length_text_pos

theorem resolveValue_ne (known : reference.scope ∈ Scopes.names)
    (mentioned : reference ∈ references text) :
    resolveValue text (Scopes.only reference (.str "")) ≠ .str text := by
  intro same
  have shorter := length_resolve_lt known mentioned
  rcases resolveValue_cases text (Scopes.only reference (.str "")) with
    ⟨_, -, -, -, shown⟩ | isText
  · rw [shown, same, Json.inlineText] at shorter
    exact shorter.false
  · rw [same] at isText
    rw [← Json.str.inj isText] at shorter
    exact shorter.false

end Template

namespace Json

variable {keep : Bool} {scopes : Scopes} {tree part : Json} {reference : Reference}

/-- Where a tree stays as it is, so do its parts. -/
theorem resolveTree_eq_of_hasPart (isPart : tree.HasPart keep part)
    (same : tree.resolveTree keep scopes = tree) : part.resolveTree keep scopes = part := by
  induction isPart with
  | self => exact same
  | @item items item part member _ ih =>
      apply ih
      rw [resolveTree, resolveItems_eq, arr.injEq] at same
      exact List.map_inj_left.1 (same.trans (List.map_id items).symm) item member
  | @value fields key value part enters member _ ih =>
      apply ih
      rw [resolveTree_obj enters, resolveFields_eq, obj.injEq] at same
      have kept := List.map_inj_left.1 (same.trans (List.map_id fields).symm) (key, value) member
      exact congrArg Prod.snd kept

/-- Two sets of data that differ in one mentioned reference alone may show. -/
theorem exists_resolveTree_ne (known : reference.scope ∈ Scopes.names)
    (mentioned : tree.Mentions keep reference) :
    ∃ left right : Scopes, (∀ other, other ≠ reference → left.lookup other = right.lookup other) ∧
      tree.resolveTree keep left ≠ tree.resolveTree keep right := by
  refine ⟨{}, Scopes.only reference (.str ""), ?_, ?_⟩
  · intro other apart
    rw [Scopes.lookup_empty, Scopes.lookup_only known, if_neg (Ne.symm apart)]
  · intro same
    rw [resolveTree_empty] at same
    obtain ⟨text, isPart, member⟩ := mentioned
    exact Template.resolveValue_ne known member (resolveTree_eq_of_hasPart isPart same.symm)

/-- The references of the tree have the same values in both. -/
def Agree (outside : Bool) (tree : Json) (left right : Scopes) : Prop :=
  ∀ reference, tree.Mentions outside reference → left.lookup reference = right.lookup reference

end Json

namespace Engine

/-- What is promised of a tree that is resolved, or drawn as a screen. -/
structure DependsOnMentioned (tree : Json) : Prop where
  resolved : ∀ left right, tree.Agree false left right → tree.resolve left = tree.resolve right
  /-- References inside actions do not matter to a screen. -/
  drawn : ∀ left right, tree.Agree true left right →
    tree.resolveScreen left = tree.resolveScreen right
  /-- Nor do entries that are not mentioned, whole scopes among them, or whether an entry is
  `null` or missing. -/
  unseen : ∀ left right : Scopes, (∀ reference, tree.Mentions true reference →
      left.entry? reference.scope reference.key = right.entry? reference.scope reference.key ∨
        left.Blank reference ∧ right.Blank reference) →
    tree.resolveScreen left = tree.resolveScreen right
  /-- So two engines show the same screen. -/
  shown : ∀ (first second : Engine) (fields fields' : Fields), first.rawScreen = .ok tree →
    second.rawScreen = .ok tree → first.context.current = second.context.current →
    tree.Agree true (first.context.scopes fields none none)
      (second.context.scopes fields' none none) →
    (first.currentScreen fields).1 = (second.currentScreen fields').1
  /-- A write to the session does not show if its key is not mentioned or if there was nothing
  and there is nothing. -/
  written : ∀ (engine : Engine) (key : String) (value : Json) (fields : Fields),
    engine.rawScreen = .ok tree →
    ¬tree.Mentions true ⟨"navigationData", key⟩ ∨
      value = .null ∧ (∀ stored, engine.context.session.get? key = some stored → stored = .null) →
    ((engine.setValue key value).currentScreen fields).1 = (engine.currentScreen fields).1
  /-- Every reference that can have a value does matter. -/
  needed : ∀ reference : Reference, reference.scope ∈ Scopes.names →
    (tree.Mentions false reference → ∃ left right : Scopes,
      (∀ other, other ≠ reference → left.lookup other = right.lookup other) ∧
        tree.resolve left ≠ tree.resolve right) ∧
    (tree.Mentions true reference → ∃ left right : Scopes,
      (∀ other, other ≠ reference → left.lookup other = right.lookup other) ∧
        tree.resolveScreen left ≠ tree.resolveScreen right)

theorem currentScreen_congr {tree : Json} {first second : Engine} {fields fields' : Fields}
    (declared : first.rawScreen = .ok tree) (alsoDeclared : second.rawScreen = .ok tree)
    (sameFrame : first.context.current = second.context.current)
    (agree : tree.Agree true (first.context.scopes fields none none)
      (second.context.scopes fields' none none)) :
    (first.currentScreen fields).1 = (second.currentScreen fields').1 := by
  rw [currentScreen_eq_map, currentScreen_eq_map, declared, alsoDeclared, sameFrame]
  simp only [Except.map, Json.resolveScreen, Json.resolveTree_congr agree]

theorem agree_setValue {tree : Json} {engine : Engine} {key : String} {value : Json}
    (unseen : ¬tree.Mentions true ⟨"navigationData", key⟩ ∨
      value = .null ∧ (∀ stored, engine.context.session.get? key = some stored → stored = .null))
    (fields : Fields) :
    tree.Agree true ((engine.setValue key value).context.scopes fields none none)
      (engine.context.scopes fields none none) := by
  rintro ⟨scope, name⟩ mentioned
  apply Scopes.lookup_eq_of_entry?
  have afterwards := Scopes.entry?_put (engine.context.scopes fields none none)
    engine.context.session.data key value scope name
  change Scopes.entry? ((engine.setValue key value).context.scopes fields none none) scope name =
    if _ then _ else Scopes.entry? (engine.context.scopes fields none none) scope name at afterwards
  by_cases isWritten : scope = "navigationData" ∧ name = key
  · obtain ⟨rfl, rfl⟩ := isWritten
    rcases unseen with absent | ⟨rfl, blank⟩
    · exact (absent mentioned).elim
    · refine Or.inr ⟨?_, ?_⟩
      · intro stored found
        rw [afterwards, if_pos ⟨rfl, rfl⟩] at found
        exact (Option.some.inj found).symm
      · intro stored found
        exact blank stored found
  · rw [if_neg isWritten] at afterwards
    exact Or.inl afterwards

/-- A tree depends on the references in its strings, a screen on those outside its actions. -/
theorem resolve_dependsOnMentioned (tree : Json) : DependsOnMentioned tree where
  resolved _ _ := Json.resolveTree_congr
  drawn _ _ := Json.resolveTree_congr
  unseen _ _ same :=
    Json.resolveTree_congr fun reference mentioned =>
      Scopes.lookup_eq_of_entry? (same reference mentioned)
  shown _ _ _ _ := currentScreen_congr
  written _ _ _ fields declared unseen :=
    currentScreen_congr declared declared rfl (agree_setValue unseen fields)
  needed _ known := ⟨Json.exists_resolveTree_ne known, Json.exists_resolveTree_ne known⟩

end Engine

end Storyboard
