import TelemetrySidecar.Extension.Client
import TelemetrySidecar.Proofs.Text.Cut
import TelemetrySidecar.Telemetry.Client

/-
  The base of an address

  The address of the interface a process runs under is given with a protocol or
  without one, and with any number of slashes at its end. `IsBase` says what base
  such an address has, by how the two are written.

  What is proved: every address has that base and no other (`base_eq_iff`). The base
  of an address that is more than slashes is a web address without a slash at its
  end. So it is its own base, clients go on from it with one slash, and it is the
  same however many slashes end the address and whether `http://` is written in front
  of one that names no protocol (`base_normalizes`).
-/

namespace TelemetrySidecar.Address

/-! ## Beginnings and ends -/

/-- A number of slashes. -/
def slashes (n : Nat) : String := String.ofList (List.replicate n '/')

/-- The last character is a slash. -/
def EndsInSlash (s : String) : Prop := ∃ front, s = front ++ "/"

/-- The address begins with the name of a web protocol. -/
def IsWeb (address : String) : Prop :=
  ∃ rest, address = "http://" ++ rest ∨ address = "https://" ++ rest

variable {address url rest : String}

@[simp] theorem toList_slashes (n : Nat) : (slashes n).toList = List.replicate n '/' := by
  simp [slashes]

theorem endsInSlash_iff : EndsInSlash url ↔ url.toList.getLast? = some '/' := by
  rw [List.getLast?_eq_some_iff]
  constructor
  · rintro ⟨front, rfl⟩
    exact ⟨front.toList, by simp⟩
  · rintro ⟨front, htext⟩
    exact ⟨String.ofList front, by simp [← String.toList_inj, htext]⟩

theorem endsInSlash_append_iff (front : String) (nonempty : rest ≠ "") :
    EndsInSlash (front ++ rest) ↔ EndsInSlash rest := by
  have : rest.toList ≠ [] := by simpa using nonempty
  rw [endsInSlash_iff, endsInSlash_iff, String.toList_append, List.getLast?_append_of_ne_nil _ this]

theorem hasProtocol_iff : hasProtocol address.toList = true ↔ IsWeb address := by
  have begins : ∀ lead : String, (Text.dropLead lead.toList address.toList).isSome ↔
      ∃ rest, address = lead ++ rest := by
    intro lead
    simp only [Option.isSome_iff_exists, Text.dropLead_eq_some]
    constructor
    · rintro ⟨rest, htext⟩
      exact ⟨String.ofList rest, by simp [← String.toList_inj, htext]⟩
    · rintro ⟨rest, rfl⟩
      exact ⟨rest.toList, by simp⟩
  rw [hasProtocol, Bool.or_eq_true, begins, begins, ← exists_or]
  rfl

theorem IsWeb.append (h : IsWeb address) (rest : String) : IsWeb (address ++ rest) := by
  obtain ⟨front, rfl | rfl⟩ := h
  · exact ⟨front ++ rest, .inl (String.append_assoc ..)⟩
  · exact ⟨front ++ rest, .inr (String.append_assoc ..)⟩

/-! ## Without the slashes at the end -/

/-- `rest` is the address without the slashes at its end. -/
structure Trimmed (address rest : String) : Prop where
  text : ∃ n, address = rest ++ slashes n
  ends : ¬ EndsInSlash rest

theorem dropEnd_eq_iff_trimmed :
    Text.dropEnd '/' address.toList = rest.toList ↔ Trimmed address rest := by
  have spelled : ∀ n, address.toList = rest.toList ++ List.replicate n '/' ↔
      address = rest ++ slashes n := by
    intro n
    simp [← String.toList_inj]
  simp only [Text.dropEnd_eq_iff, spelled, ← endsInSlash_iff, ne_eq]
  exact ⟨fun h => ⟨h.1, h.2⟩, fun h => ⟨h.text, h.ends⟩⟩

theorem exists_trimmed (address : String) : ∃ rest, Trimmed address rest :=
  ⟨String.ofList (Text.dropEnd '/' address.toList), dropEnd_eq_iff_trimmed.mp (by simp)⟩

namespace Trimmed

theorem refl (ends : ¬ EndsInSlash rest) : Trimmed rest rest :=
  ⟨⟨0, by simp [slashes]⟩, ends⟩

theorem append_slashes (h : Trimmed address rest) (n : Nat) :
    Trimmed (address ++ slashes n) rest := by
  obtain ⟨m, rfl⟩ := h.text
  exact ⟨⟨m + n, by simp [← String.toList_inj]⟩, h.ends⟩

theorem ne_empty (h : Trimmed address rest) (more : ∃ c ∈ address.toList, c ≠ '/') :
    rest ≠ "" := by
  rintro rfl
  obtain ⟨n, rfl⟩ := h.text
  obtain ⟨c, hc, hslash⟩ := more
  rw [String.empty_append, toList_slashes] at hc
  exact hslash (List.eq_of_mem_replicate hc)

/-- A text in front of an address that keeps something keeps its own slashes, as a
protocol must. -/
theorem behind (h : Trimmed address rest) (nonempty : rest ≠ "") (front : String) :
    Trimmed (front ++ address) (front ++ rest) := by
  obtain ⟨n, rfl⟩ := h.text
  refine ⟨⟨n, (String.append_assoc ..).symm⟩, fun ends => ?_⟩
  exact h.ends ((endsInSlash_append_iff front nonempty).mp ends)

theorem not_isWeb (h : Trimmed address rest) (bare : ¬ IsWeb address) : ¬ IsWeb rest := by
  obtain ⟨n, rfl⟩ := h.text
  exact fun web => bare (web.append _)

end Trimmed

/-! ## The base -/

/-- The base of an address: what is left without the slashes at its end, behind a
protocol if that names none. -/
inductive IsBase (address : String) : String → Prop where
  | web {url : String} (trimmed : Trimmed address url) (web : IsWeb url) : IsBase address url
  | bare {rest : String} (trimmed : Trimmed address rest) (bare : ¬ IsWeb rest) :
      IsBase address ("http://" ++ rest)

theorem exists_isBase (address : String) : ∃ url, IsBase address url := by
  obtain ⟨rest, trimmed⟩ := exists_trimmed address
  by_cases web : IsWeb rest
  · exact ⟨rest, .web trimmed web⟩
  · exact ⟨_, .bare trimmed web⟩

namespace IsBase

theorem found (h : IsBase address url) : base address = url := by
  cases h with
  | web trimmed web =>
    have kept := dropEnd_eq_iff_trimmed.mpr trimmed
    simp [base, baseOf, kept, hasProtocol_iff.mpr web]
  | bare trimmed bare =>
    have kept := dropEnd_eq_iff_trimmed.mpr trimmed
    rw [← hasProtocol_iff, Bool.not_eq_true] at bare
    rw [base, baseOf, kept, bare, ← String.toList_inj]
    simp

theorem isWeb (h : IsBase address url) : IsWeb url := by
  cases h with
  | web _ web => exact web
  | bare => exact ⟨_, .inl rfl⟩

theorem not_endsInSlash (h : IsBase address url) (more : ∃ c ∈ address.toList, c ≠ '/') :
    ¬ EndsInSlash url := by
  cases h with
  | web trimmed => exact trimmed.ends
  | bare trimmed => exact (trimmed.behind (trimmed.ne_empty more) _).ends

theorem append_slashes (h : IsBase address url) (n : Nat) :
    IsBase (address ++ slashes n) url := by
  cases h with
  | web trimmed web => exact .web (trimmed.append_slashes n) web
  | bare trimmed bare => exact .bare (trimmed.append_slashes n) bare

theorem behind_http (h : IsBase address url) (more : ∃ c ∈ address.toList, c ≠ '/')
    (bare : ¬ IsWeb address) : IsBase ("http://" ++ address) url := by
  cases h with
  | web trimmed web => exact absurd web (trimmed.not_isWeb bare)
  | bare trimmed => exact .web (trimmed.behind (trimmed.ne_empty more) _) ⟨_, .inl rfl⟩

end IsBase

/-- An address is made into its base, and has no other. -/
theorem base_eq_iff : base address = url ↔ IsBase address url := by
  constructor
  · rintro rfl
    obtain ⟨url, isBase⟩ := exists_isBase address
    rwa [isBase.found]
  · exact IsBase.found

/-! ## Below the base -/

/-- A base goes on with exactly one slash to a version and a resource. -/
structure IsBelow (base version resource url : String) : Prop where
  text : url = base ++ "/" ++ version ++ "/" ++ resource
  once : ¬ EndsInSlash base ∧ version.toList.head? ≠ some '/'

theorem isBelow_below {base version : String} (ends : ¬ EndsInSlash base)
    (first : version.toList.head? ≠ some '/') (resource : String) :
    IsBelow base version resource (below base version resource) := by
  have kept := dropEnd_eq_iff_trimmed.mpr (Trimmed.refl ends)
  exact ⟨by simp [below, kept], ends, first⟩

/-- The base of an address that is more than slashes is a web address without a slash at
its end, and its own base. Both clients go on from it with one slash, and it does not
matter how many slashes end the address nor, where it names no protocol, whether one is
written in front. -/
theorem base_normalizes (address : String) (more : ∃ c ∈ address.toList, c ≠ '/') :
    (∀ url, base address = url ↔ IsBase address url) ∧
    base (base address) = base address ∧
    IsWeb (base address) ∧ ¬ EndsInSlash (base address) ∧
    (∀ identifier resource, IsBelow (base address) ExtensionClient.version
      ("extension/" ++ resource)
      (ExtensionClient.endpoint { runtimeUrl := base address, identifier } resource)) ∧
    (∀ types buffering, IsBelow (base address) SubscriptionClient.version "telemetry"
      (SubscriptionClient.endpoint { runtimeUrl := base address, types, buffering })) ∧
    (∀ n, base (address ++ slashes n) = base address) ∧
    (¬ IsWeb address → base ("http://" ++ address) = base address) := by
  have isBase : IsBase address (base address) := base_eq_iff.mp rfl
  have ends : ¬ EndsInSlash (base address) := isBase.not_endsInSlash more
  -- Nothing is taken off the base a second time, and nothing put in front of it.
  have again : IsBase (base address) (base address) := .web (.refl ends) isBase.isWeb
  refine ⟨fun _ => base_eq_iff, again.found, isBase.isWeb, ends, ?_, ?_, ?_, ?_⟩
  · intro identifier resource
    exact isBelow_below ends (by decide) _
  · intro types buffering
    exact isBelow_below ends (by decide) _
  · intro n
    exact (isBase.append_slashes n).found
  · intro bare
    exact (isBase.behind_http more bare).found

/-- Little more than a protocol: without its slash it names none. -/
theorem base_normalizes_protocolOnly :
    (∃ c ∈ "https:/".toList, c ≠ '/') ∧ ¬ IsWeb "https:/" ∧
    base "https:/" = "http://https:" ∧ base "http://https:" = "http://https:" ∧
    base ("https:/" ++ slashes 1) = "http://https:" ∧ base "http://https:/" = "http://https:" ∧
    SubscriptionClient.endpoint { runtimeUrl := "http://https:", types := [.platform] } =
      "http://https:/2022-07-01/telemetry" := by
  have more : ∃ c ∈ "https:/".toList, c ≠ '/' := ⟨'h', by simp, by decide⟩
  have bare : ¬ IsWeb "https:/" := by
    rw [← hasProtocol_iff]
    decide
  obtain ⟨_, again, _, _, _, telemetry, slashed, behind⟩ := base_normalizes "https:/" more
  have found : base "https:/" = "http://https:" := by decide
  rw [found] at again telemetry slashed behind
  exact ⟨more, bare, found, again, slashed 1, behind bare, (telemetry [.platform] {}).text⟩

/-- An address of slashes alone has a bare protocol for its base, which is not its own. -/
example : base "//" = "http://" ∧ base (base "//") = "http://http:" := by decide

end TelemetrySidecar.Address
