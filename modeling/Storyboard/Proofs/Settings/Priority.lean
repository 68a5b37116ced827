import Storyboard.Settings.Load
/-!
# Priority of settings

The settings are read from a file and from the environment. Each of them has its own sources
and takes its value from the first that has one: the environment, the file, the default. A
timeout that is no numeral is no value, so `natural?` is shown first to read exactly the
numerals, and a list of identifiers to be read back as it was joined.

What is checked are the settings that are in effect. A value that is replaced is not looked at.

Main result: `load_settles`.
-/

namespace Storyboard

namespace Text

/-! ### Numerals -/

/-- The text is a decimal numeral for a number of 64 bits, a plus sign before it or not. -/
structure IsNatural (text : String) (number : Nat) : Prop where
  bounded : number < Nat.pow 2 64
  written : ∃ digits : List Nat, digits ≠ [] ∧ (∀ digit ∈ digits, digit < 10) ∧
    (text.toList = digits.map Nat.digitChar ∨ text.toList = '+' :: digits.map Nat.digitChar) ∧
      number = ofDigits 10 digits

theorem digit?_ten_eq_some_iff {c : Char} {digit : Nat} :
    digit? 10 c = some digit ↔ digit < 10 ∧ c = Nat.digitChar digit := by
  constructor
  · intro read
    rcases Option.filter_eq_some_iff.1 read with ⟨value, below⟩
    have small : digit < 10 := of_decide_eq_true below
    refine ⟨small, Char.toNat_inj.1 ?_⟩
    rw [Nat.toNat_digitChar_of_lt_ten small]
    rw [hexDigit?] at value
    split at value
    · rename_i range
      have least : 48 ≤ c.toNat := range.1
      have found : c.toNat - 48 = digit := Option.some.inj value
      omega
    -- A letter stands for ten or more.
    · split at value
      · have found := Option.some.inj value
        omega
      · split at value
        · have found := Option.some.inj value
          omega
        · cases value
  · rintro ⟨small, rfl⟩
    revert digit
    decide

theorem mapM_digit?_eq_some_iff {text : List Char} {digits : List Nat} :
    text.mapM (digit? 10) = some digits ↔
      (∀ digit ∈ digits, digit < 10) ∧ text = digits.map Nat.digitChar := by
  induction text generalizing digits with
  | nil =>
      cases digits with
      | nil => simp
      | cons digit rest => simp
  | cons c rest ih =>
      simp only [List.mapM_cons, Option.bind_eq_bind, Option.bind_eq_some_iff, ih,
        digit?_ten_eq_some_iff, Option.pure_def, Option.some.injEq]
      constructor
      · rintro ⟨digit, ⟨small, rfl⟩, others, ⟨smallOthers, rfl⟩, rfl⟩
        exact ⟨List.forall_mem_cons.2 ⟨small, smallOthers⟩, rfl⟩
      · rintro ⟨small, written⟩
        cases digits with
        | nil => cases written
        | cons digit others =>
            cases written
            rcases List.forall_mem_cons.1 small with ⟨first, smallOthers⟩
            exact ⟨digit, ⟨first, rfl⟩, others, ⟨smallOthers, rfl⟩, rfl⟩

/-- The number of a text without a sign. -/
theorem unsigned_eq_some_iff {text : List Char} {number : Nat} :
    (if text.isEmpty then none else (number? 10 text).filter (· < Nat.pow 2 64)) = some number ↔
      number < Nat.pow 2 64 ∧ ∃ digits : List Nat, digits ≠ [] ∧ (∀ digit ∈ digits, digit < 10) ∧
        text = digits.map Nat.digitChar ∧ number = ofDigits 10 digits := by
  cases text with
  | nil =>
      simp only [List.isEmpty_nil, if_true, reduceCtorEq, false_iff, not_and, not_exists]
      rintro - digits nonempty - none -
      exact nonempty (List.map_eq_nil_iff.1 none.symm)
  | cons c rest =>
      rw [List.isEmpty_cons, if_neg Bool.false_ne_true, Option.filter_eq_some_iff, number?,
        Option.map_eq_some_iff]
      constructor
      · rintro ⟨⟨digits, read, rfl⟩, bounded⟩
        rcases mapM_digit?_eq_some_iff.1 read with ⟨small, written⟩
        refine ⟨of_decide_eq_true bounded, digits, ?_, small, written, rfl⟩
        rintro rfl
        cases written
      · rintro ⟨bounded, digits, -, small, written, rfl⟩
        exact ⟨⟨digits, mapM_digit?_eq_some_iff.2 ⟨small, written⟩, rfl⟩,
          decide_eq_true bounded⟩

theorem map_digitChar_ne_sign {digits : List Nat} (small : ∀ digit ∈ digits, digit < 10)
    (rest : List Char) : digits.map Nat.digitChar ≠ '+' :: rest := by
  cases digits with
  | nil => simp
  | cons digit others =>
      intro signed
      have first : Nat.digitChar digit = '+' := (List.cons.inj signed).1
      have value := Nat.toNat_digitChar_of_lt_ten (small digit List.mem_cons_self)
      rw [first] at value
      change 43 = 48 + digit at value
      omega

/-- A text is read as a number if it is a numeral for it. -/
theorem natural?_eq_some_iff {text : String} {number : Nat} :
    natural? text = some number ↔ IsNatural text number := by
  by_cases signed : ∃ rest, text.toList = '+' :: rest
  · rcases signed with ⟨rest, signed⟩
    simp only [natural?, signed]
    rw [unsigned_eq_some_iff]
    constructor
    · rintro ⟨bounded, digits, nonempty, small, rfl, value⟩
      exact ⟨bounded, digits, nonempty, small, Or.inr signed, value⟩
    · rintro ⟨bounded, digits, nonempty, small, written, value⟩
      rw [signed] at written
      rcases written with plain | behind
      · exact absurd plain.symm (map_digitChar_ne_sign small rest)
      · exact ⟨bounded, digits, nonempty, small, (List.cons.inj behind).2, value⟩
  · have plain : natural? text =
        if text.toList.isEmpty then none
        else (number? 10 text.toList).filter (· < Nat.pow 2 64) := by
      rw [natural?]
      split
      · rename_i rest sign
        exact absurd ⟨rest, sign⟩ signed
      · rfl
    rw [plain, unsigned_eq_some_iff]
    constructor
    · rintro ⟨bounded, digits, nonempty, small, written, value⟩
      exact ⟨bounded, digits, nonempty, small, Or.inl written, value⟩
    · rintro ⟨bounded, digits, nonempty, small, written, value⟩
      rcases written with written | behind
      · exact ⟨bounded, digits, nonempty, small, written, value⟩
      · exact absurd ⟨_, behind⟩ signed

/-! ### Lists of identifiers -/

/-- Texts without commas are read back from their list. -/
theorem splitAt_intercalate {texts : List String} (nonempty : texts ≠ [])
    (plain : ∀ text ∈ texts, ',' ∉ text.toList) :
    splitAt ',' (String.intercalate "," texts) = texts := by
  induction texts with
  | nil => exact absurd rfl nonempty
  | cons text rest ih =>
      rcases List.forall_mem_cons.1 plain with ⟨first, others⟩
      cases rest with
      | nil => simp [splitAt, pieces_of_not_mem first]
      | cons next more =>
          have joined : (String.intercalate "," (text :: next :: more)).toList =
              text.toList ++ ',' :: (String.intercalate "," (next :: more)).toList := by
            simp [String.intercalate_cons_cons]
          have later : (pieces ',' (String.intercalate "," (next :: more)).toList).map
              String.ofList = next :: more := ih (List.cons_ne_nil _ _) others
          rw [splitAt, joined, pieces_append first, List.map_cons, later, String.ofList_toList]

end Text

namespace Environment

/-- Identifiers that are joined with commas are read back. -/
theorem identifiers_intercalate {ids : List String}
    (plain : ∀ id ∈ ids, id ≠ "" ∧ Text.trim id = id ∧ ',' ∉ id.toList) :
    identifiers (String.intercalate "," ids) = ids := by
  by_cases isEmpty : ids = []
  · subst isEmpty
    decide +kernel
  · rw [identifiers, Text.splitAt_intercalate isEmpty fun id member => (plain id member).2.2]
    have trimmed : ids.map Text.trim = ids := by
      calc
        ids.map Text.trim = ids.map id :=
          List.map_congr_left fun id member => (plain id member).2.1
        _ = ids := List.map_id ids
    rw [trimmed, List.filter_eq_self]
    intro id member
    simpa using (plain id member).1

/-- The environment with a variable unset. -/
def without (environment : Environment) (name : String) : Environment :=
  fun other => if other = name then none else environment other

/-- A variable has a value that takes effect. -/
def TakesEffect (environment : Environment) : Prop :=
  (∃ value, environment "SCREENFLOW_FLOW_DIR" = some value) ∨
    (∃ value, environment "SCREENFLOW_PRELOAD" = some value) ∨
    (∃ value, environment "SCREENFLOW_BASE_URL" = some value) ∨
    ∃ text number, environment "SCREENFLOW_TIMEOUT_MS" = some text ∧
      Text.IsNatural text number

theorem timeout?_eq_some_iff {environment : Environment} {number : Nat} :
    environment.timeout? = some number ↔
      ∃ text, environment "SCREENFLOW_TIMEOUT_MS" = some text ∧ Text.IsNatural text number := by
  simp only [timeout?, Option.bind_eq_some_iff, Text.natural?_eq_some_iff]

theorem hasEffect_iff {environment : Environment} :
    environment.hasEffect = true ↔ environment.TakesEffect := by
  simp only [hasEffect, Bool.or_eq_true, Option.isSome_iff_exists, timeout?_eq_some_iff,
    directory?, preload?, base?, TakesEffect, Option.map_eq_some_iff, or_assoc]
  grind

end Environment

namespace Settings

/-- The value of a setting is the environment's, else the file's, else the default. -/
inductive Chosen {α : Type} (environment file : Option α) (fallback : α) : α → Prop where
  | environment {value : α} (set : environment = some value) :
      Chosen environment file fallback value
  | file {value : α} (unset : environment = none) (given : file = some value) :
      Chosen environment file fallback value
  | fallback (unset : environment = none) (absent : file = none) :
      Chosen environment file fallback fallback

theorem chosen_getD {α : Type} (environment file : Option α) (fallback : α) :
    Chosen environment file fallback (environment.getD (file.getD fallback)) := by
  cases environment with
  | some value => exact .environment rfl
  | none =>
      cases file with
      | some value => exact .file rfl rfl
      | none => exact .fallback rfl rfl

/-- The sources leave no choice. -/
theorem Chosen.eq_getD {α : Type} {environment file : Option α} {fallback value : α}
    (chosen : Chosen environment file fallback value) :
    value = environment.getD (file.getD fallback) := by
  cases chosen with
  | environment set => rw [set, Option.getD_some]
  | file unset given => rw [unset, given, Option.getD_none, Option.getD_some]
  | fallback unset absent => rw [unset, absent, Option.getD_none, Option.getD_none]

/-- A setting that need not have a value has no default either. -/
theorem chosen_orElse {α : Type} (environment file : Option α) :
    Chosen (environment.map some) (file.map some) none (environment <|> file) := by
  cases environment with
  | some value => exact .environment rfl
  | none =>
      cases file with
      | some value => exact .file rfl rfl
      | none => exact .fallback rfl rfl

/-- The settings are in effect: each has its value from its own sources. -/
structure InEffect (file : Option SettingsFile) (environment : Environment)
    (settings : Settings) : Prop where
  directory : Chosen (environment "SCREENFLOW_FLOW_DIR") (file.bind (·.directory)) "flows"
    settings.flows.directory
  preload : Chosen ((environment "SCREENFLOW_PRELOAD").map Environment.identifiers)
    (file.bind (·.preload)) [] settings.flows.preload
  base : Chosen ((environment "SCREENFLOW_BASE_URL").map some)
    ((file.bind (·.base)).map some) none settings.network.base
  timeout : ∃ read, (∀ number, read = some number ↔ ∃ text,
      environment "SCREENFLOW_TIMEOUT_MS" = some text ∧ Text.IsNatural text number) ∧
    Chosen read (file.bind (·.timeout)) 30000 settings.network.timeout
  paths : settings.flows.paths = (file.map (·.paths)).getD []
  headers : settings.network.headers = (file.map (·.headers)).getD []
  hasFile : settings.hasFile = file.isSome
  fromEnvironment : settings.origin = .environment ↔ environment.TakesEffect
  fromFile : settings.origin = .file ↔ ¬environment.TakesEffect ∧ file ≠ none
  fromNothing : settings.origin = .default ↔ ¬environment.TakesEffect ∧ file = none

/-- The settings can be used. -/
structure Usable (settings : Settings) : Prop where
  timeout : settings.network.timeout ≠ 0
  base : ∀ base, settings.network.base = some base →
    base.startsWith "http://" = true ∨ base.startsWith "https://" = true

/-- The settings of a file and the environment, whether they can be used or not. -/
def merged (file : Option SettingsFile) (environment : Environment) : Settings :=
  ((file.map ofFile).getD {}).withEnvironment environment

theorem inEffect_merged (file : Option SettingsFile) (environment : Environment) :
    InEffect file environment (merged file environment) := by
  have origin : (merged file environment).origin =
      if environment.hasEffect then .environment else if file.isSome then .file else .default := by
    cases file <;> rfl
  have timeout : Chosen environment.timeout? (file.bind (·.timeout)) 30000
      (merged file environment).network.timeout := by
    cases file with
    | none => exact chosen_getD _ _ _
    | some file => exact chosen_getD _ file.timeout _
  constructor
  case directory =>
    cases file with
    | none => exact chosen_getD _ _ _
    | some file => exact chosen_getD _ file.directory _
  case preload =>
    cases file with
    | none => exact chosen_getD _ _ _
    | some file => exact chosen_getD _ file.preload _
  case base =>
    cases file with
    | none => exact chosen_orElse _ none
    | some file => exact chosen_orElse _ file.base
  case timeout =>
    exact ⟨environment.timeout?, fun _ => Environment.timeout?_eq_some_iff, timeout⟩
  case paths => cases file <;> rfl
  case headers => cases file <;> rfl
  case hasFile => cases file <;> rfl
  all_goals
    rw [origin, ← Environment.hasEffect_iff]
    cases environment.hasEffect <;> cases file <;> simp

theorem fault?_of_noTimeout {settings : Settings} (none : settings.network.timeout = 0) :
    settings.fault? = some .noTimeout := by
  rw [fault?, if_pos none]

theorem fault?_of_relative {settings : Settings} {base : String}
    (timeout : settings.network.timeout ≠ 0) (based : settings.network.base = some base)
    (relative : ¬(base.startsWith "http://" = true ∨ base.startsWith "https://" = true)) :
    settings.fault? = some (.relativeBase base) := by
  have notAbsolute : ¬Http.isAbsolute base = true := by
    rwa [Http.isAbsolute, Bool.or_eq_true]
  rw [fault?, if_neg timeout, based]
  exact if_neg notAbsolute

theorem Usable.fault? {settings : Settings} (usable : settings.Usable) :
    settings.fault? = none := by
  rw [Settings.fault?, if_neg usable.timeout]
  cases based : settings.network.base with
  | none => rfl
  | some base =>
      have absolute : Http.isAbsolute base = true := by
        rw [Http.isAbsolute, Bool.or_eq_true]
        exact usable.base base based
      exact if_pos absolute

theorem usable_of_fault? {settings : Settings} (accepted : settings.fault? = none) :
    settings.Usable := by
  constructor
  · intro none
    rw [fault?_of_noTimeout none] at accepted
    cases accepted
  · intro base based
    refine Decidable.byContradiction fun relative => ?_
    by_cases timeout : settings.network.timeout = 0
    · rw [fault?_of_noTimeout timeout] at accepted
      cases accepted
    · rw [fault?_of_relative timeout based relative] at accepted
      cases accepted

/-- What a file and an environment come to. -/
structure Settles (file : Option SettingsFile) (environment : Environment)
    (settings : Settings) : Prop where
  inEffect : InEffect file environment settings
  loads : load file environment = .ok settings ↔ settings.Usable
  noTimeout : settings.network.timeout = 0 → load file environment = .error .noTimeout
  relative : settings.network.timeout ≠ 0 → ∀ base, settings.network.base = some base →
    ¬(base.startsWith "http://" = true ∨ base.startsWith "https://" = true) →
      load file environment = .error (.relativeBase base)
  /-- A timeout that is no number might as well not be set. -/
  unread : ∀ text, environment "SCREENFLOW_TIMEOUT_MS" = some text →
    (∀ number, ¬Text.IsNatural text number) →
      load file (environment.without "SCREENFLOW_TIMEOUT_MS") = load file environment
  joined : ∀ ids, (∀ id ∈ ids, id ≠ "" ∧ Text.trim id = id ∧ ',' ∉ id.toList) →
    environment "SCREENFLOW_PRELOAD" = some (String.intercalate "," ids) →
      settings.flows.preload = ids

theorem load_of_fault {file : Option SettingsFile} {environment : Environment} {fault : Fault}
    (found : (merged file environment).fault? = some fault) :
    load file environment = .error fault := by
  rw [merged] at found
  simp only [load, found]

theorem load_of_usable {file : Option SettingsFile} {environment : Environment}
    (usable : (merged file environment).Usable) :
    load file environment = .ok (merged file environment) := by
  have accepted := usable.fault?
  rw [merged] at accepted ⊢
  simp only [load, accepted]

/-- The environment counts by what it says of each setting. -/
theorem load_congr {first second : Environment} (directory : first.directory? = second.directory?)
    (preload : first.preload? = second.preload?) (base : first.base? = second.base?)
    (timeout : first.timeout? = second.timeout?) (file : Option SettingsFile) :
    load file first = load file second := by
  have effect : first.hasEffect = second.hasEffect := by
    simp only [Environment.hasEffect, directory, preload, base, timeout]
  have same : merged file first = merged file second := by
    simp only [merged, withEnvironment, effect, directory, preload, base, timeout]
  rw [merged, merged] at same
  simp only [load, same]

theorem load_without_timeout {environment : Environment} {text : String}
    (set : environment "SCREENFLOW_TIMEOUT_MS" = some text)
    (unread : ∀ number, ¬Text.IsNatural text number) (file : Option SettingsFile) :
    load file (environment.without "SCREENFLOW_TIMEOUT_MS") = load file environment := by
  have none : environment.timeout? = none := by
    rw [Option.eq_none_iff_forall_ne_some]
    intro number read
    rcases Environment.timeout?_eq_some_iff.1 read with ⟨other, isOther, isNatural⟩
    cases set.symm.trans isOther
    exact unread number isNatural
  apply load_congr
  · rfl
  · rfl
  · rfl
  · rw [none]
    rfl

/-- Every setting in effect has its value by the priority of its own sources, and what is in
effect decides alone whether loading succeeds. -/
theorem load_settles (file : Option SettingsFile) (environment : Environment) :
    ∃ settings, Settles file environment settings := by
  have inEffect := inEffect_merged file environment
  refine ⟨merged file environment, inEffect, ⟨fun loaded => ?_, load_of_usable⟩, ?_, ?_, ?_, ?_⟩
  · cases found : (merged file environment).fault? with
    | none => exact usable_of_fault? found
    | some fault =>
        rw [load_of_fault found] at loaded
        cases loaded
  · exact fun none => load_of_fault (fault?_of_noTimeout none)
  · exact fun timeout base based relative =>
      load_of_fault (fault?_of_relative timeout based relative)
  · exact fun text set unread => load_without_timeout set unread file
  · intro ids plain set
    cases file <;>
      simp [merged, withEnvironment, Environment.preload?, set,
        Environment.identifiers_intercalate plain]

/-- A file with a timeout and a base that cannot be used. -/
def sampleFile : SettingsFile :=
  { directory := some "assets"
    preload := some ["tour"]
    base := some "ftp://files"
    timeout := some 0 }

def sampleEnvironment : Environment :=
  .ofTable [("SCREENFLOW_BASE_URL", "http://api"), ("SCREENFLOW_PRELOAD", "auth,home"),
    ("SCREENFLOW_TIMEOUT_MS", "+750")]

/-- The environment replaces both, and the list of the file. -/
theorem load_settles_of_replaced :
    (∀ id ∈ ["auth", "home"], id ≠ "" ∧ Text.trim id = id ∧ ',' ∉ id.toList) ∧
      ∃ settings, load (some sampleFile) sampleEnvironment = .ok settings ∧
        settings.flows.directory = "assets" ∧ settings.flows.preload = ["auth", "home"] ∧
        settings.network.base = some "http://api" ∧ settings.network.timeout = 750 ∧
        settings.origin = .environment := by
  have plain : ∀ id ∈ ["auth", "home"], id ≠ "" ∧ Text.trim id = id ∧ ',' ∉ id.toList := by
    decide +kernel
  rcases load_settles (some sampleFile) sampleEnvironment with ⟨settings, settles⟩
  have directory : settings.flows.directory = "assets" :=
    settles.inEffect.directory.eq_getD.trans (by decide +kernel)
  have preload := settles.joined _ plain (by decide +kernel)
  have base : settings.network.base = some "http://api" :=
    settles.inEffect.base.eq_getD.trans (by decide +kernel)
  have timeout : settings.network.timeout = 750 := by
    rcases settles.inEffect.timeout with ⟨read, reads, chosen⟩
    have isRead : read = some 750 :=
      (reads 750).2 ⟨"+750", by decide +kernel, by decide, [7, 5, 0], by decide +kernel⟩
    rw [chosen.eq_getD, isRead, Option.getD_some]
  have effect : sampleEnvironment.TakesEffect := Or.inr (Or.inl ⟨"auth,home", by decide +kernel⟩)
  have usable : settings.Usable := by
    constructor
    · rw [timeout]
      decide
    · intro other isOther
      cases base.symm.trans isOther
      exact Or.inl (by decide +kernel)
  exact ⟨plain, settings, settles.loads.2 usable, directory, preload, base, timeout,
    settles.inEffect.fromEnvironment.2 effect⟩

end Settings

end Storyboard
