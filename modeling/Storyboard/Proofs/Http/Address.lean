import Mathlib.Data.List.DropRight
import Storyboard.Http.Client
import Storyboard.Settings.Load
/-!
# Addresses of requests

An endpoint is put behind a base address with one slash where they meet, however many slashes
the one ends in and the other starts with.

A base address that the settings accept starts with a scheme and two slashes. The slashes at its
end are cut off before an endpoint is put behind it, and where it has nothing else, those of the
scheme go with them. Every other base makes each endpoint an absolute address, which is the
address of itself.

Main results: `addressOf_joins` and `addressOf_isAbsolute_iff`.
-/

namespace Storyboard

namespace Http

/-- The schemes of absolute addresses. -/
def schemes : List String := ["http:", "https:"]

/-- Nothing but slashes follows the scheme. -/
def IsBare (base : String) : Prop :=
  ∃ scheme ∈ schemes, ∃ count, base.toList = scheme.toList ++ List.replicate count '/'

theorem isAbsolute_iff {text : String} :
    isAbsolute text = true ↔ ∃ scheme ∈ schemes, scheme.toList ++ ['/', '/'] <+: text.toList := by
  simp [isAbsolute, schemes, String.startsWith_string_iff]

theorem toList_trimEnd (text : String) :
    (trimEnd text).toList = text.toList.rdropWhile (· == '/') := by
  simp [trimEnd, List.rdropWhile]

theorem toList_trimStart (text : String) :
    (trimStart text).toList = text.toList.dropWhile (· == '/') := by
  simp [trimStart]

theorem address_of_isAbsolute (base : Option String) {endpoint : String}
    (absolute : isAbsolute endpoint = true) : address base endpoint = endpoint := by
  simp [address, absolute]

theorem toList_address {base endpoint : String} (relative : isAbsolute endpoint = false) :
    (address (some base) endpoint).toList =
      base.toList.rdropWhile (· == '/') ++ '/' :: endpoint.toList.dropWhile (· == '/') := by
  simp [address, relative, toList_trimEnd, toList_trimStart]

/-- What stands before a character that is no slash is not cut off. -/
theorem rdropWhile_append {front rest : List Char} {c : Char} (member : c ∈ rest)
    (other : c ≠ '/') :
    (front ++ rest).rdropWhile (· == '/') = front ++ rest.rdropWhile (· == '/') := by
  have stays : rest.reverse.dropWhile (· == '/') ≠ [] := by
    simp only [ne_eq, List.dropWhile_eq_nil_iff, List.mem_reverse, beq_iff_eq, not_forall]
    exact ⟨c, member, other⟩
  simp [List.rdropWhile, List.dropWhile_append, stays]

theorem rdropWhile_slashes (front : List Char) (count : Nat) :
    (front ++ List.replicate count '/').rdropWhile (· == '/') = front.rdropWhile (· == '/') := by
  induction count with
  | zero => simp
  | succ count ih =>
      rw [List.replicate_succ', ← List.append_assoc, List.rdropWhile_concat_pos _ _ _ rfl, ih]

theorem dropWhile_slashes (count : Nat) (rest : List Char) :
    (List.replicate count '/' ++ rest).dropWhile (· == '/') = rest.dropWhile (· == '/') := by
  refine List.dropWhile_append_of_pos fun c member => ?_
  simp [List.eq_of_mem_replicate member]

/-! ### Where a base and an endpoint meet -/

/-- So many slashes. -/
def slashes (count : Nat) : String := String.ofList (List.replicate count '/')

theorem trimEnd_append_slashes {front : String} (ends : front.endsWith '/' = false)
    (count : Nat) : trimEnd (front ++ slashes count) = front := by
  rw [String.endsWith_char_eq_getLast?, beq_eq_false_iff_ne] at ends
  rw [← String.toList_inj, toList_trimEnd, String.toList_append, slashes, String.toList_ofList,
    rdropWhile_slashes, List.rdropWhile_eq_self_iff]
  intro filled slash
  rw [List.getLast?_eq_some_getLast filled] at ends
  exact ends (congrArg some (beq_iff_eq.1 slash))

theorem trimStart_slashes_append {rest : String} (starts : rest.startsWith '/' = false)
    (count : Nat) : trimStart (slashes count ++ rest) = rest := by
  rw [String.startsWith_char_eq_head?, beq_eq_false_iff_ne] at starts
  rw [← String.toList_inj, toList_trimStart, String.toList_append, slashes, String.toList_ofList,
    dropWhile_slashes]
  cases text : rest.toList with
  | nil => rfl
  | cons c others =>
      have other : c ≠ '/' := by
        rintro rfl
        exact starts (by rw [text, List.head?_cons])
      simp [other]

/-- A slash before an absolute address makes it a relative one. -/
theorem isAbsolute_slashes_append {rest : String} {count : Nat}
    (relative : count = 0 → isAbsolute rest = false) :
    isAbsolute (slashes count ++ rest) = false := by
  cases count with
  | zero => simpa [slashes] using relative rfl
  | succ count =>
      rw [Bool.eq_false_iff, Ne, isAbsolute_iff]
      simp [schemes, slashes, List.replicate_succ, List.cons_prefix_cons]

/-- A base and an endpoint meet in one slash, and what each of them has before or behind it
stays. An absolute endpoint stays as it is behind any base, and every endpoint does where there
is none. -/
theorem addressOf_joins (settings : NetworkSettings) (request : Request) :
    (∀ front rest m n, front.endsWith '/' = false → rest.startsWith '/' = false →
      (n = 0 → isAbsolute rest = false) →
        (Client.ofSettings { settings with base := some (front ++ slashes m) }).addressOf
          { request with endpoint := slashes n ++ rest } = front ++ "/" ++ rest) ∧
      (isAbsolute request.endpoint = true →
        (Client.ofSettings settings).addressOf request = request.endpoint) ∧
      (settings.base = none →
        (Client.ofSettings settings).addressOf request = request.endpoint) := by
  refine ⟨?_, ?_, ?_⟩
  · intro front rest m n ends starts relative
    simp [Client.addressOf, Client.ofSettings, address, isAbsolute_slashes_append relative,
      trimEnd_append_slashes ends, trimStart_slashes_append starts]
  · exact address_of_isAbsolute settings.base
  · intro none
    simp [Client.addressOf, Client.ofSettings, address, none]

/-- Behind a slash, an absolute endpoint is joined to the base like any other. -/
theorem addressOf_joins_of_slashed :
    let absolute : Request := { method := .get, endpoint := "http://x//" }
    ("https://api//v1".endsWith '/' = false ∧ "http://x//".startsWith '/' = false ∧
      (Client.ofSettings { base := some ("https://api//v1" ++ slashes 2) }).addressOf
        { absolute with endpoint := slashes 1 ++ "http://x//" } =
          "https://api//v1/http://x//") ∧
      (isAbsolute absolute.endpoint = true ∧
        (Client.ofSettings { base := some "https://api/" }).addressOf absolute = "http://x//") ∧
      (Client.ofSettings {}).addressOf { absolute with endpoint := "//users" } = "//users" := by
  intro absolute
  have ends : "https://api//v1".endsWith '/' = false := by decide +kernel
  have starts : "http://x//".startsWith '/' = false := by decide +kernel
  have starting : isAbsolute absolute.endpoint = true := by decide +kernel
  exact ⟨⟨ends, starts, (addressOf_joins {} absolute).1 _ _ 2 1 ends starts nofun⟩,
    ⟨starting, (addressOf_joins { base := some "https://api/" } absolute).2.1 starting⟩,
    (addressOf_joins {} { absolute with endpoint := "//users" }).2.2 rfl⟩

/-! ### Absolute addresses -/

theorem rdropWhile_scheme {scheme : String} (known : scheme ∈ schemes) (count : Nat) :
    (scheme.toList ++ List.replicate count '/').rdropWhile (· == '/') = scheme.toList := by
  rw [rdropWhile_slashes]
  simp only [schemes, List.mem_cons, List.not_mem_nil, or_false] at known
  rcases known with rfl | rfl <;> decide

/-- An accepted base with more than its scheme stays absolute when it is trimmed. -/
theorem isAbsolute_address_of_not_isBare {base : String} (accepted : isAbsolute base = true)
    (named : ¬IsBare base) (endpoint : String) :
    isAbsolute (address (some base) endpoint) = true := by
  by_cases absolute : isAbsolute endpoint = true
  · rwa [address_of_isAbsolute _ absolute]
  · rcases isAbsolute_iff.1 accepted with ⟨scheme, known, rest, written⟩
    -- What is not a slash behind the scheme keeps the scheme's slashes from being trimmed.
    have other : ∃ c ∈ rest, c ≠ '/' := by
      by_contra slashes
      simp only [not_exists, not_and, Decidable.not_not] at slashes
      refine named ⟨scheme, known, rest.length + 2, ?_⟩
      rw [← written, List.eq_replicate_of_mem slashes, List.append_assoc]
      simp [List.replicate_succ]
    rcases other with ⟨c, member, other⟩
    rw [isAbsolute_iff]
    refine ⟨scheme, known, ?_⟩
    rw [toList_address (Bool.eq_false_iff.2 absolute), ← written, rdropWhile_append member other,
      List.append_assoc]
    exact List.prefix_append _ _

/-- Of a bare base its scheme is left, with one slash behind it. -/
theorem toList_address_of_isBare {base endpoint : String} (bare : IsBare base)
    (relative : isAbsolute endpoint = false) :
    ∃ scheme ∈ schemes, (address (some base) endpoint).toList =
      scheme.toList ++ '/' :: endpoint.toList.dropWhile (· == '/') := by
  rcases bare with ⟨scheme, known, count, written⟩
  refine ⟨scheme, known, ?_⟩
  rw [toList_address relative, written, rdropWhile_scheme known]

theorem not_isAbsolute_address_of_isBare {base endpoint : String} (bare : IsBare base)
    (relative : isAbsolute endpoint = false) :
    isAbsolute (address (some base) endpoint) = false := by
  rcases toList_address_of_isBare bare relative with ⟨scheme, known, made⟩
  rw [Bool.eq_false_iff, Ne, isAbsolute_iff, made]
  rintro ⟨other, otherKnown, begins⟩
  -- One slash follows the scheme; a second would have to come from the trimmed endpoint.
  have trimmed := List.head?_dropWhile_not (· == '/') endpoint.toList
  simp only [schemes, List.mem_cons, List.not_mem_nil, or_false] at known otherKnown
  rcases known with rfl | rfl <;> rcases otherKnown with rfl | rfl <;>
    simp [List.cons_prefix_cons] at begins
  all_goals
    rcases begins with ⟨rest, follows⟩
    rw [← follows] at trimmed
    simp at trimmed

/-- Put behind a bare base once more, the address grows. -/
theorem address_address_ne_of_isBare {base endpoint : String} (bare : IsBare base)
    (relative : isAbsolute endpoint = false) :
    address (some base) (address (some base) endpoint) ≠ address (some base) endpoint := by
  rcases toList_address_of_isBare bare relative with ⟨scheme, known, made⟩
  rcases toList_address_of_isBare bare (not_isAbsolute_address_of_isBare bare relative) with
    ⟨other, -, again⟩
  -- The address begins with its scheme, so it loses nothing when it is put behind the base.
  have kept : (address (some base) endpoint).toList.dropWhile (· == '/') =
      (address (some base) endpoint).toList := by
    rw [made]
    simp only [schemes, List.mem_cons, List.not_mem_nil, or_false] at known
    rcases known with rfl | rfl <;> rfl
  intro same
  have lengths := congrArg (fun text => text.toList.length) same
  simp only [again, kept, List.length_append, List.length_cons] at lengths
  omega

theorem isAbsolute_of_accepted {settings : Settings} {base : String}
    (accepted : settings.fault? = none) (based : settings.network.base = some base) :
    isAbsolute base = true := by
  simp only [Settings.fault?, based] at accepted
  split at accepted
  · cases accepted
  · split at accepted
    · assumption
    · cases accepted

/-- With an accepted base, an endpoint stands for an absolute address, and this for itself, but
for a relative endpoint behind a bare base: then neither is so. -/
theorem addressOf_isAbsolute_iff {settings : Settings} {base : String}
    (accepted : settings.fault? = none) (based : settings.network.base = some base)
    (request : Request) :
    let client := Client.ofSettings settings.network
    let made := client.addressOf request
    (isAbsolute made = true ↔ isAbsolute request.endpoint = true ∨ ¬IsBare base) ∧
      (client.addressOf { request with endpoint := made } = made ↔
        isAbsolute request.endpoint = true ∨ ¬IsBare base) := by
  have absoluteBase := isAbsolute_of_accepted accepted based
  simp only [Client.addressOf, Client.ofSettings, based]
  by_cases fine : isAbsolute request.endpoint = true ∨ ¬IsBare base
  · have absolute : isAbsolute (address (some base) request.endpoint) = true := by
      rcases fine with absolute | named
      · rwa [address_of_isAbsolute _ absolute]
      · exact isAbsolute_address_of_not_isBare absoluteBase named _
    exact ⟨iff_of_true absolute fine, iff_of_true (address_of_isAbsolute _ absolute) fine⟩
  · have parts := not_or.1 fine
    have relative := Bool.eq_false_iff.2 parts.1
    have bare := not_not.1 parts.2
    refine ⟨iff_of_false ?_ fine, iff_of_false ?_ fine⟩
    · rw [not_isAbsolute_address_of_isBare bare relative]
      exact Bool.false_ne_true
    · exact address_address_ne_of_isBare bare relative

def sampleSettings (base : String) : Settings := { network := { base := some base } }

def sampleRequest : Request := { method := .get, endpoint := "//users//1" }

/-- Slashes at the seam are cut off, others stay. -/
theorem addressOf_isAbsolute_iff_of_named :
    (sampleSettings "https://api//v1//").fault? = none ∧
      (Client.ofSettings (sampleSettings "https://api//v1//").network).addressOf sampleRequest =
        "https://api//v1/users//1" ∧
      isAbsolute "https://api//v1/users//1" = true := by
  have accepted : (sampleSettings "https://api//v1//").fault? = none := by decide +kernel
  have named : ¬IsBare "https://api//v1//" := by
    rintro ⟨scheme, known, count, written⟩
    have kept := rdropWhile_scheme known count
    rw [← written] at kept
    simp only [schemes, List.mem_cons, List.not_mem_nil, or_false] at known
    rcases known with rfl | rfl <;> revert kept <;> decide
  have made : (Client.ofSettings (sampleSettings "https://api//v1//").network).addressOf
      sampleRequest = "https://api//v1/users//1" := by decide +kernel
  refine ⟨accepted, made, ?_⟩
  rw [← made]
  exact (addressOf_isAbsolute_iff accepted rfl sampleRequest).1.2 (Or.inr named)

/-- A base of a scheme and its two slashes is accepted and loses them. -/
theorem addressOf_relative_of_bare :
    let client := Client.ofSettings (sampleSettings "http://").network
    (sampleSettings "http://").fault? = none ∧
      client.addressOf sampleRequest = "http:/users//1" ∧
      isAbsolute "http:/users//1" = false ∧
      client.addressOf { sampleRequest with endpoint := "http:/users//1" } =
        "http:/http:/users//1" := by
  decide +kernel

end Http

end Storyboard
