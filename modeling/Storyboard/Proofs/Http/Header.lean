import Mathlib.Data.List.Nodup
import Storyboard.Engine.Run
import Storyboard.Http.Client
/-!
# Headers of a request

The client sends its own headers and those of the action, both behind each other. A name that
only one of them gives a value is sent once, with this value. A name that both give a value is
sent twice: the client's header is no default that the action's would stand in for.

Main result: `prepare?_carries`.
-/

namespace Storyboard

namespace Http

variable {α : Type} {table : Table α} {name : String}

/-- What a table has for a name in whatever case. -/
def ofName? (table : Table α) (name : String) : Option α :=
  (table.find? fun entry => entry.1.toLower == name.toLower).map (·.2)

/-- No two names of a table differ in their case only. -/
def DistinctNames (table : Table α) : Prop :=
  (table.keys.map String.toLower).Nodup

theorem toLower_eq_toLower_iff {first second : String} :
    first.toLower = second.toLower ↔
      first.toList.map Char.toLower = second.toList.map Char.toLower := by
  rw [← String.toList_inj]
  change (first.map Char.toLower).toList = (second.map Char.toLower).toList ↔ _
  rw [String.toList_map, String.toList_map]

@[simp] theorem ofName?_nil (name : String) : ofName? ([] : Table α) name = none := rfl

theorem ofName?_cons (entry : String × α) (rest : Table α) (name : String) :
    ofName? (entry :: rest) name =
      if entry.1.toLower = name.toLower then some entry.2 else ofName? rest name := by
  by_cases same : entry.1.toLower = name.toLower <;> simp [ofName?, same]

theorem DistinctNames.tail {entry : String × α} {rest : Table α}
    (distinct : DistinctNames (entry :: rest)) : DistinctNames rest :=
  (List.nodup_cons.1 distinct).2

theorem DistinctNames.ne_of_mem {entry other : String × α} {rest : Table α}
    (distinct : DistinctNames (entry :: rest)) (member : other ∈ rest) :
    other.1.toLower ≠ entry.1.toLower := by
  intro same
  apply (List.nodup_cons.1 distinct).1
  rw [← same]
  exact List.mem_map_of_mem (List.mem_map_of_mem member)

theorem DistinctNames.keys_nodup (distinct : DistinctNames table) : table.keys.Nodup :=
  List.Nodup.of_map _ distinct

/-- In whatever case a name is asked for, there is one entry that it can mean. -/
theorem DistinctNames.ofName?_eq_some_iff (distinct : DistinctNames table) {value : α} :
    ofName? table name = some value ↔
      ∃ key, (key, value) ∈ table ∧ key.toLower = name.toLower := by
  induction table with
  | nil => simp [ofName?]
  | cons entry rest ih =>
      obtain ⟨first, stored⟩ := entry
      rw [ofName?_cons]
      by_cases same : first.toLower = name.toLower
      · rw [if_pos same]
        constructor
        · intro found
          cases found
          exact ⟨first, List.mem_cons_self, same⟩
        · rintro ⟨key, member, alike⟩
          rcases List.mem_cons.1 member with isFirst | later
          · cases isFirst
            rfl
          · exact absurd (alike.trans same.symm) (distinct.ne_of_mem later)
      · rw [if_neg same, ih distinct.tail]
        constructor
        · rintro ⟨key, member, alike⟩
          exact ⟨key, List.mem_cons_of_mem _ member, alike⟩
        · rintro ⟨key, member, alike⟩
          rcases List.mem_cons.1 member with isFirst | later
          · cases isFirst
            exact absurd alike same
          · exact ⟨key, later, alike⟩

theorem ofName?_eq_none_iff :
    ofName? table name = none ↔ ∀ entry ∈ table, entry.1.toLower ≠ name.toLower := by
  simp [ofName?]

namespace Headers

theorem values_append (first second : Headers) (name : String) :
    values (first ++ second) name = values first name ++ values second name := by
  simp [values]

/-- The headers of a table are sent once each. -/
theorem values_lowered {table : Table String} (distinct : DistinctNames table) (name : String) :
    values (table.map fun header => (header.1.toLower, header.2)) name =
      (ofName? table name).toList := by
  induction table with
  | nil => rfl
  | cons header rest ih =>
      have split : values ((header :: rest).map fun header => (header.1.toLower, header.2)) name =
          values [(header.1.toLower, header.2)] name ++
            values (rest.map fun header => (header.1.toLower, header.2)) name :=
        values_append [(header.1.toLower, header.2)] _ name
      rw [split, ih distinct.tail, ofName?_cons]
      by_cases same : header.1.toLower = name.toLower
      · have later : ofName? rest name = none := by
          rw [ofName?_eq_none_iff]
          intro other member
          rw [← same]
          exact distinct.ne_of_mem member
        simp [values, same, later]
      · simp [values, same]

theorem extend?_of_legal (headers : Headers) {added : List (String × String)}
    (legal : ∀ header ∈ added, isLegal header = true) :
    headers.extend? added =
      some (headers ++ added.map fun header => (header.1.toLower, header.2)) := by
  rw [extend?, if_pos (List.all_eq_true.2 legal)]

/-- The form of a body is added where no header speaks of it. -/
theorem values_withJsonBody (headers : Headers) (name : String) :
    headers.withJsonBody.values name =
      if headers.values name = [] ∧ name.toLower = contentType then ["application/json"]
      else headers.values name := by
  have lower : contentType.toLower = contentType := by decide +kernel
  by_cases speaks : headers.values contentType = []
  · have added : values [(contentType, "application/json")] name =
        if name.toLower = contentType then ["application/json"] else [] := by
      by_cases isForm : name.toLower = contentType
      · simp [values, isForm]
      · simp [values, isForm, Ne.symm isForm]
    rw [withJsonBody, speaks, List.isEmpty_nil, if_pos rfl, values_append, added]
    by_cases isForm : name.toLower = contentType
    · have none : headers.values name = [] := by
        rw [← speaks]
        simp [values, isForm, lower]
      simp [isForm, none]
    · simp [isForm]
  · have unchanged : headers.withJsonBody = headers := by
      rw [withJsonBody, if_neg (by simpa using speaks)]
    rw [unchanged, if_neg]
    rintro ⟨none, isForm⟩
    apply speaks
    rw [← none]
    simp [values, isForm, lower]

end Headers

/-! ### The headers of an action -/

section Own

variable {own : Fields}

/-- The headers of an action that are not `null`, as texts. -/
theorem mem_headerTable_iff (distinct : DistinctNames own) {key text : String} :
    (key, text) ∈ Engine.headerTable own ↔
      ∃ value, (key, value) ∈ own ∧ Engine.headerText value = some text := by
  have entries : ∀ {entry : String × String},
      entry ∈ own.filterMap (fun header => (Engine.headerText header.2).map (header.1, ·)) ↔
        ∃ value, (entry.1, value) ∈ own ∧ Engine.headerText value = some entry.2 := by
    rintro ⟨key, text⟩
    simp only [List.mem_filterMap, Option.map_eq_some_iff, Prod.mk.injEq, Prod.exists]
    constructor
    · rintro ⟨_, value, member, _, given, rfl, rfl⟩
      exact ⟨value, member, given⟩
    · rintro ⟨value, member, given⟩
      exact ⟨key, value, member, text, given, rfl, rfl⟩
  have once : (Table.keys (own.filterMap fun header =>
      (Engine.headerText header.2).map (header.1, ·))).Nodup := by
    refine distinct.keys_nodup.sublist ?_
    clear distinct entries
    induction own with
    | nil => exact .slnil
    | cons header rest ih =>
        rw [List.filterMap_cons]
        cases Engine.headerText header.2 with
        | none => exact ih.cons _
        | some text => exact ih.cons_cons _
  constructor
  · intro member
    exact entries.1 (Table.mem_of_mem_ofList member)
  · intro given
    apply Table.mem_of_get?
    rw [Engine.headerTable, Table.get?_ofList once]
    exact Table.get?_of_mem once (entries.2 given)

theorem DistinctNames.headerTable (distinct : DistinctNames own) :
    DistinctNames (Engine.headerTable own) := by
  have ordered : (Engine.headerTable own).keys.Pairwise (· < ·) :=
    List.pairwise_map.2 (Table.Ordered.ofList _)
  have listed : ∀ key ∈ (Engine.headerTable own).keys, key ∈ own.keys := by
    intro key member
    rcases List.mem_map.1 member with ⟨⟨_, text⟩, stored, rfl⟩
    rcases (mem_headerTable_iff distinct).1 stored with ⟨value, stored, -⟩
    exact List.mem_map_of_mem stored
  -- Two of these names that are alike are names of one entry of the action, so they are equal.
  refine List.Nodup.map_on ?_ (ordered.imp Std.ne_of_lt)
  intro key member other otherMember alike
  exact List.inj_on_of_nodup_map distinct (listed key member) (listed other otherMember) alike

/-- A name has the value of the action, if that is not `null`. -/
theorem ofName?_headerTable (distinct : DistinctNames own) (name : String) :
    ofName? (Engine.headerTable own) name = (ofName? own name).bind Engine.headerText := by
  apply Option.ext
  intro text
  rw [distinct.headerTable.ofName?_eq_some_iff, Option.bind_eq_some_iff]
  constructor
  · rintro ⟨key, member, alike⟩
    rcases (mem_headerTable_iff distinct).1 member with ⟨value, stored, given⟩
    exact ⟨value, distinct.ofName?_eq_some_iff.2 ⟨key, stored, alike⟩, given⟩
  · rintro ⟨value, found, given⟩
    rcases distinct.ofName?_eq_some_iff.1 found with ⟨key, stored, alike⟩
    exact ⟨key, (mem_headerTable_iff distinct).2 ⟨value, stored, given⟩, alike⟩

end Own

/-! ### Requests -/

/-- The headers of the client and those of a request are sent behind each other. -/
theorem Client.headersOf?_of_legal {client : Client} {request : Request}
    (given : ∀ header ∈ client.headers, Headers.isLegal header = true)
    (own : ∀ header ∈ request.headers, Headers.isLegal header = true) :
    client.headersOf? request =
      let headers : Headers :=
        client.headers.map (fun header => (header.1.toLower, header.2)) ++
          request.headers.map fun header => (header.1.toLower, header.2)
      some (if request.body.isSome then headers.withJsonBody else headers) := by
  simp [Client.headersOf?, Headers.extend?_of_legal _ given, Headers.extend?_of_legal _ own]

/-- What is sent under a name. `given` is the value that the client has for it, `own` that of the
action, and `isForm` says whether it is the name for the form of a JSON body that is sent. -/
structure Carries (given own : Option String) (isForm : Prop) (values : List String) : Prop where
  all : given ≠ none ∨ own ≠ none → values = given.toList ++ own.toList
  /-- There is one value, the client's only where the action has none, unless both have one. -/
  single : given ≠ none ∨ own ≠ none →
    (values = (own.or given).toList ↔ given = none ∨ own = none)
  form : given = none → own = none → isForm → values = ["application/json"]
  nothing : given = none → own = none → ¬isForm → values = []

theorem carries_of_legal {client : Client} {request : Request}
    (givenNames : DistinctNames client.headers) (ownNames : DistinctNames request.headers)
    (givenLegal : ∀ header ∈ client.headers, Headers.isLegal header = true)
    (ownLegal : ∀ header ∈ request.headers, Headers.isLegal header = true) :
    ∃ sent, client.headersOf? request = some sent ∧ ∀ name,
      Carries (ofName? client.headers name) (ofName? request.headers name)
        (name.toLower = Headers.contentType ∧ request.body.isSome = true) (sent.values name) := by
  rw [Client.headersOf?_of_legal givenLegal ownLegal]
  refine ⟨_, rfl, fun name => ?_⟩
  have plain : Headers.values (client.headers.map (fun header => (header.1.toLower, header.2)) ++
        request.headers.map fun header => (header.1.toLower, header.2)) name =
      (ofName? client.headers name).toList ++ (ofName? request.headers name).toList := by
    rw [Headers.values_append, Headers.values_lowered givenNames, Headers.values_lowered ownNames]
  generalize ofName? client.headers name = given at plain ⊢
  generalize ofName? request.headers name = own at plain ⊢
  by_cases hasBody : request.body.isSome = true
  · rw [if_pos hasBody, Headers.values_withJsonBody, plain]
    cases given <;> cases own <;> constructor <;> simp [hasBody]
  · rw [if_neg hasBody, plain]
    cases given <;> cases own <;> constructor <;> simp [hasBody]

/-- The request of an action is sent if its address has a host, with the client's header and its
own under each name. -/
theorem prepare?_carries {client : Client} {own : Option Fields} (method : Method)
    (endpoint : String) (body : Option Json) (givenNames : DistinctNames client.headers)
    (ownNames : DistinctNames (own.getD []))
    (givenLegal : ∀ header ∈ client.headers, Headers.isLegal header = true)
    (ownLegal : ∀ header ∈ own.getD [], ∀ text, Engine.headerText header.2 = some text →
      Headers.isLegal (header.1, text) = true) :
    let request : Request := { method, endpoint, headers := Engine.headerTable (own.getD []), body }
    ∃ headers : Headers,
      client.prepare? request = (Url.parse? (client.addressOf request)).map (fun url =>
        { method, url, headers, body := body.map (·.compact) }) ∧
      ∀ name, Carries (ofName? client.headers name)
        ((ofName? (own.getD []) name).bind Engine.headerText)
        (name.toLower = Headers.contentType ∧ body.isSome = true) (headers.values name) := by
  intro request
  have legal : ∀ header ∈ request.headers, Headers.isLegal header = true := by
    rintro ⟨key, text⟩ member
    rcases (mem_headerTable_iff ownNames).1 member with ⟨value, stored, given⟩
    exact ownLegal _ stored text given
  rcases carries_of_legal givenNames ownNames.headerTable givenLegal legal with
    ⟨headers, made, carries⟩
  refine ⟨headers, ?_, fun name => ?_⟩
  · rw [Client.prepare?, made]
    cases Url.parse? (client.addressOf request) <;> rfl
  · rw [← ofName?_headerTable ownNames]
    exact carries name

def sampleClient : Client :=
  { base := some "http://api"
    headers := [("Accept", "text/html"), ("X-Trace", "1")]
    timeout := 1000 }

/-- A header that is left out, one that is no text, and one of the client's in another case. -/
def sampleHeaders : Fields := [("ACCEPT", .null), ("X-Dry", .bool true), ("x-trace", .str "2")]

/-- The client's value where the action has `null`, the action's where the client has none, and
both for the third name. -/
theorem prepare?_carries_of_null :
    DistinctNames sampleClient.headers ∧ DistinctNames sampleHeaders ∧
      ∃ sent, sampleClient.prepare?
          { method := .get, endpoint := "/users", headers := Engine.headerTable sampleHeaders } =
        some sent ∧
        sent.headers.values "accept" = ["text/html"] ∧ sent.headers.values "x-dry" = ["true"] ∧
        sent.headers.values "X-Trace" = ["1", "2"] := by
  have givenNames : DistinctNames sampleClient.headers := by
    simp [DistinctNames, sampleClient, Table.keys, toLower_eq_toLower_iff]
  have ownNames : DistinctNames sampleHeaders := by
    simp [DistinctNames, sampleHeaders, Table.keys, toLower_eq_toLower_iff]
  have ownLegal : ∀ header ∈ sampleHeaders, ∀ text, Engine.headerText header.2 = some text →
      Headers.isLegal (header.1, text) = true := by
    intro header member text given
    have legal : ∀ header ∈ sampleHeaders, ∀ text ∈ (Engine.headerText header.2).toList,
        Headers.isLegal (header.1, text) = true := by decide +kernel
    exact legal header member text (Option.mem_toList.2 given)
  rcases @prepare?_carries sampleClient (some sampleHeaders) .get "/users" none
    givenNames ownNames (by decide +kernel) ownLegal with ⟨headers, made, carries⟩
  have located : Url.parse? (address sampleClient.base "/users") =
      some ⟨false, "api", 80, "/users"⟩ := by decide +kernel
  simp only [Client.addressOf, located, Option.map_some] at made
  have accept : headers.values "accept" = ["text/html"] := by
    simpa [sampleClient, sampleHeaders, ofName?_cons, toLower_eq_toLower_iff, Engine.headerText]
      using (carries "accept").all
  have dry : headers.values "x-dry" = ["true"] := by
    simpa [sampleClient, sampleHeaders, ofName?_cons, toLower_eq_toLower_iff, Engine.headerText,
      Json.inlineText, Json.compact] using (carries "x-dry").all
  have trace : headers.values "X-Trace" = ["1", "2"] := by
    simpa [sampleClient, sampleHeaders, ofName?_cons, toLower_eq_toLower_iff, Engine.headerText,
      Json.inlineText] using (carries "X-Trace").all
  exact ⟨givenNames, ownNames, _, made, accept, dry, trace⟩

/-- The action's own value is sent beside the client's. -/
theorem prepare?_sends_twice :
    ∃ sent, sampleClient.prepare?
        { method := .get, endpoint := "/users"
          headers := Engine.headerTable [("accept", .str "application/json")] } = some sent ∧
      sent.headers.values "Accept" = ["text/html", "application/json"] := by
  refine ⟨⟨.get, ⟨false, "api", 80, "/users"⟩, [("accept", "text/html"), ("x-trace", "1"),
    ("accept", "application/json")], none⟩, ?_, ?_⟩
  · decide +kernel
  · decide +kernel

end Http

end Storyboard
