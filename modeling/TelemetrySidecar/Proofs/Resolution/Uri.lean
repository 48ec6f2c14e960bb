import Mathlib
import TelemetrySidecar.Proofs.Text.Cut
import TelemetrySidecar.Resolution.Resolver

/-
  The parts of a source's address

  An address is routed by its scheme and served by a provider that takes the scheme
  off again. The one cuts at the first colon and asks whether what comes before is a
  name; the other drops a beginning it knows. `Parts` says what the scheme and the
  payload of an address are, without either.

  What is proved: both find the parts of every address, and there are no others
  (`parts_iff`). So the providers of files, variables and inline documents are handed
  the payload as it stands in the address, whatever colons it holds
  (`served_by_parts`).
-/

namespace TelemetrySidecar.SourceUri

/-! ## Names of schemes -/

/-- A letter of ASCII. -/
def IsLetter (c : Char) : Prop := ('a' ≤ c ∧ c ≤ 'z') ∨ ('A' ≤ c ∧ c ≤ 'Z')

/-- A digit of ASCII. -/
def IsDigit (c : Char) : Prop := '0' ≤ c ∧ c ≤ '9'

/-- At least two characters, the first a letter and each other one a letter, a digit, a
plus, a hyphen or a dot. -/
structure IsName (name : List Char) : Prop where
  long : 2 ≤ name.length
  first : ∀ c, name.head? = some c → IsLetter c
  others : ∀ c ∈ name.tail, IsLetter c ∨ IsDigit c ∨ c = '+' ∨ c = '-' ∨ c = '.'

theorem isAlpha_iff {c : Char} : c.isAlpha = true ↔ IsLetter c := by
  simp only [Char.isAlpha, Char.isUpper, Char.isLower, IsLetter, Char.le_def, Bool.or_eq_true,
    Bool.and_eq_true, decide_eq_true_eq]
  exact or_comm

theorem isDigit_iff {c : Char} : c.isDigit = true ↔ IsDigit c := by
  simp only [Char.isDigit, IsDigit, Char.le_def, Bool.and_eq_true, decide_eq_true_eq]

theorem isScheme_iff {name : List Char} : isScheme name = true ↔ IsName name := by
  match name with
  | [] | [_] => exact iff_of_false (by simp [isScheme]) fun h => by simpa using h.long
  | c :: d :: rest =>
    have hchar : ∀ x : Char, (x.isAlphanum || x == '+' || x == '-' || x == '.') = true ↔
        IsLetter x ∨ IsDigit x ∨ x = '+' ∨ x = '-' ∨ x = '.' := by
      intro x
      simp only [Char.isAlphanum, Bool.or_eq_true, beq_iff_eq, isAlpha_iff, isDigit_iff, or_assoc]
    rw [isScheme, Bool.and_eq_true, isAlpha_iff, List.all_eq_true]
    constructor
    · rintro ⟨hfirst, hothers⟩
      refine ⟨by simp, ?_, fun x hx => (hchar x).mp (hothers x hx)⟩
      rintro x hx
      cases hx
      exact hfirst
    · intro h
      exact ⟨h.first c rfl, fun x hx => (hchar x).mpr (h.others x hx)⟩

/-! ## Scheme and payload -/

/-- The scheme and the payload of an address: what comes before the first colon, if it
is a name, and what follows; else the scheme of files and the whole address. -/
inductive Parts (uri : String) : String → String → Prop where
  | named {name payload : String} (text : uri = name ++ ":" ++ payload)
      (first : ':' ∉ name.toList) (isName : IsName name.toList) : Parts uri name payload
  | bare (unnamed : ∀ name payload : String, uri = name ++ ":" ++ payload →
      ':' ∉ name.toList → ¬ IsName name.toList) : Parts uri "file" uri

theorem toList_joined (name payload : String) :
    (name ++ ":" ++ payload).toList = name.toList ++ ':' :: payload.toList := by
  simp

/-- What comes before the first colon is the scheme if it is a name, and dropping it
leaves what follows the colon. -/
theorem parts_named {name payload : String} (first : ':' ∉ name.toList)
    (isName : IsName name.toList) :
    scheme (name ++ ":" ++ payload) = name ∧
      without name (name ++ ":" ++ payload) = payload := by
  have hcut := Text.cut_char_append first payload.toList
  have hlead : Text.dropLead (name.toList ++ [':']) (name.toList ++ ':' :: payload.toList) =
      some payload.toList := Text.dropLead_eq_some.mpr (by simp)
  constructor
  · rw [scheme, toList_joined, schemeOf, hcut]
    simp [isScheme_iff.mpr isName]
  · rw [without, toList_joined, SourceUri.payload, hlead]
    simp

/-- An address that begins with no name is that of a file, and does not begin with the
scheme of files. -/
theorem parts_bare {uri : String} (unnamed : ∀ name payload : String,
    uri = name ++ ":" ++ payload → ':' ∉ name.toList → ¬ IsName name.toList) :
    scheme uri = "file" ∧ without "file" uri = uri := by
  have splits : ∀ {name rest : List Char}, uri.toList = name ++ ':' :: rest → ':' ∉ name →
      isScheme name = false := by
    intro name rest htext hfirst
    have htext : uri = String.ofList name ++ ":" ++ String.ofList rest := by
      rw [← String.toList_inj, toList_joined, htext]
      simp
    have := unnamed _ _ htext (by simpa using hfirst)
    rw [String.toList_ofList, ← isScheme_iff, Bool.not_eq_true] at this
    exact this
  constructor
  · have hscheme : schemeOf uri.toList = fileScheme := by
      unfold schemeOf
      cases hcut : Text.cut [':'] uri.toList with
      | none => rfl
      | some p =>
        obtain ⟨htext, hfirst⟩ := Text.cut_char_eq_some_iff.mp hcut
        simp [splits htext hfirst]
    rw [scheme, hscheme]
    rfl
  · have hlead : Text.dropLead ("file".toList ++ [':']) uri.toList = none := by
      rw [Option.eq_none_iff_forall_ne_some]
      intro rest hrest
      rw [Text.dropLead_eq_some, List.append_assoc, List.singleton_append] at hrest
      exact absurd (splits hrest (by decide)) (by decide)
    rw [without, SourceUri.payload, hlead]
    simp

theorem exists_parts (uri : String) : ∃ name payload, Parts uri name payload := by
  by_cases named : ∃ name payload : String,
      uri = name ++ ":" ++ payload ∧ ':' ∉ name.toList ∧ IsName name.toList
  · obtain ⟨name, payload, text, first, isName⟩ := named
    exact ⟨name, payload, .named text first isName⟩
  · refine ⟨"file", uri, .bare fun name payload text first isName => named ?_⟩
    exact ⟨name, payload, text, first, isName⟩

theorem Parts.found {uri name payload : String} (h : Parts uri name payload) :
    scheme uri = name ∧ without name uri = payload := by
  cases h with
  | named text first isName =>
    subst text
    exact parts_named first isName
  | bare unnamed => exact parts_bare unnamed

/-- An address is routed by one scheme and stripped to one payload, and these are its
parts. -/
theorem parts_iff {uri name payload : String} :
    scheme uri = name ∧ without name uri = payload ↔ Parts uri name payload := by
  constructor
  · rintro ⟨rfl, rfl⟩
    obtain ⟨name, payload, parts⟩ := exists_parts uri
    obtain ⟨rfl, rfl⟩ := parts.found
    exact parts
  · exact Parts.found

/-! ## What providers are handed -/

/-- What comes of an address of a file, of a variable or of an inline document, by its
scheme and its payload. -/
inductive Retrieved (around : Resolver.Surroundings) (uri : String) :
    String → String → Except ResolveError String → Prop where
  | file {path text : String} (found : around.files.readText path = .ok text) :
      Retrieved around uri "file" path (.ok text)
  | unreadable {path : String} {fault : FileFault}
      (lost : around.files.readText path = .error fault) :
      Retrieved around uri "file" path (.error (.unreadable uri fault))
  | given {name text : String} (named : name ≠ "") (set : around.env.text? name = some text) :
      Retrieved around uri "env" name (.ok text)
  | unset {name : String} (named : name ≠ "") (missing : around.env.text? name = none) :
      Retrieved around uri "env" name (.error (.variableNotSet uri name))
  | unnamed : Retrieved around uri "env" ""
      (.error (.invalidUri uri "missing environment variable name"))
  | inline (document : String) : Retrieved around uri "yaml" document (.ok document)

variable {around : Resolver.Surroundings} {uri payload : String}

theorem Retrieved.of_inline {name : String} {answer : Except ResolveError String}
    (h : Retrieved around uri name payload answer) (inline : name = "yaml") :
    answer = .ok payload := by
  cases h with
  | file | unreadable | given | unset | unnamed => exact absurd inline (by decide)
  | inline => rfl

theorem retrieve_file (around : Resolver.Surroundings) (taken : without "file" uri = payload) :
    ∃ answer, Retrieved around uri "file" payload answer ∧
      ((Provider.file around.files : Provider Talk).retrieve uri).run = pure answer := by
  simp only [Provider.file, taken]
  cases hread : around.files.readText payload with
  | ok text => exact ⟨_, .file hread, rfl⟩
  | error fault => exact ⟨_, .unreadable hread, rfl⟩

theorem retrieve_environment (around : Resolver.Surroundings) (taken : without "env" uri = payload) :
    ∃ answer, Retrieved around uri "env" payload answer ∧
      ((Provider.environment around.env : Provider Talk).retrieve uri).run = pure answer := by
  simp only [Provider.environment, taken]
  cases hempty : payload.isEmpty with
  | true =>
    obtain rfl : payload = "" := by simpa using hempty
    exact ⟨_, .unnamed, rfl⟩
  | false =>
    have hsome : payload ≠ "" := by simpa using hempty
    cases hset : around.env.text? payload with
    | none => exact ⟨_, .unset hsome hset, rfl⟩
    | some text => exact ⟨_, .given hsome hset, rfl⟩

/-- The scheme and the payload of an address are its parts, and the provider it is
routed to answers as they say, if it is that of files, variables or inline
documents. -/
theorem served_by_parts (around : Resolver.Surroundings) (uris : List String) (uri : String) :
    (∀ name payload, scheme uri = name ∧ without name uri = payload ↔ Parts uri name payload) ∧
    ∀ name payload, Parts uri name payload → name ∈ ["file", "env", "yaml"] →
      ∃ provider answer, (Resolver.standard around uris).provider? (scheme uri) = some provider ∧
        Retrieved around uri name payload answer ∧ (provider.retrieve uri).run = pure answer := by
  refine ⟨fun name payload => parts_iff, fun name payload parts handled => ?_⟩
  obtain ⟨routed, taken⟩ := parts.found
  rw [routed]
  simp only [List.mem_cons, List.not_mem_nil, or_false] at handled
  rcases handled with rfl | rfl | rfl
  · obtain ⟨answer, retrieved, run⟩ := retrieve_file around taken
    exact ⟨_, answer, rfl, retrieved, run⟩
  · obtain ⟨answer, retrieved, run⟩ := retrieve_environment around taken
    exact ⟨_, answer, rfl, retrieved, run⟩
  · refine ⟨_, .ok payload, rfl, .inline payload, ?_⟩
    simp only [Provider.inlineText, taken]
    rfl

/-- An inline document with colons, and a path that begins with one letter and a colon. -/
theorem served_by_parts_colons (around : Resolver.Surroundings) :
    Parts "C:/c.yaml" "file" "C:/c.yaml" ∧ Parts "yaml:a::b: c" "yaml" "a::b: c" ∧
    ∃ provider, (Resolver.standard around []).provider? (scheme "yaml:a::b: c") = some provider ∧
      (provider.retrieve "yaml:a::b: c").run = pure (.ok "a::b: c") := by
  have path := (served_by_parts around [] "C:/c.yaml").1 "file" "C:/c.yaml"
  obtain ⟨parts, served⟩ := served_by_parts around [] "yaml:a::b: c"
  have document : Parts "yaml:a::b: c" "yaml" "a::b: c" := (parts _ _).mp ⟨by decide, by decide⟩
  obtain ⟨provider, answer, routed, retrieved, run⟩ := served "yaml" "a::b: c" document (by decide)
  obtain rfl := retrieved.of_inline rfl
  exact ⟨path.mp ⟨by decide, by decide⟩, document, provider, routed, run⟩

end TelemetrySidecar.SourceUri
