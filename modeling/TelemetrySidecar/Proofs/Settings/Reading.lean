import TelemetrySidecar.Proofs.Settings.Table
import TelemetrySidecar.Proofs.Telemetry.Batch

/-
  Reading the leaves of the settings

  What is proved: what one entry of a table sets, and that it sets nothing else
  (`setTelemetry_cases` and its like). So a section that is read of a table with no key
  twice has in each field what is read of the value under its key
  (`ReadsField.read_of_lookup`), and the settings have at each of their leaves what the
  value at its path reads as (`Leaf.holds_of_reach?`). No leaf is read of a table
  (`Leaf.Holds.isTable`).
-/

namespace TelemetrySidecar.Setting

open Settings (reach?)

section Fields

variable {σ α : Type} {set : String → Setting → σ → Except SettingsError σ} {key : String}
  {read : Reading α} {get : σ → α}

/-- A field is read under its key, and no other key changes it. -/
structure ReadsField (set : String → Setting → σ → Except SettingsError σ) (key : String)
    (read : Reading α) (get : σ → α) : Prop where
  hit : ∀ {v s s'}, set key v s = .ok s' → read v = .ok (get s')
  miss : ∀ {k v s s'}, k ≠ key → set k v s = .ok s' → get s' = get s

theorem ReadsField.kept (field : ReadsField set key read get) {t : Table} {start s : σ}
    (unlisted : t.lookup key = none)
    (h : readFields set (t.map fun e => (e.1, e.1, e.2)) start = .ok s) : get s = get start := by
  induction t generalizing start with
  | nil =>
    cases h
    rfl
  | cons e rest ih =>
    obtain ⟨k, value⟩ := e
    obtain ⟨next, taken, h⟩ := bind_eq_ok_iff.mp h
    rw [lookup_cons] at unlisted
    split at unlisted
    · cases unlisted
    · rename_i other
      rw [ih unlisted h, field.miss (Ne.symm other) (mapError_eq_ok_iff.mp taken)]

/-- A field is read of the value under its key. -/
theorem ReadsField.read_of_lookup (field : ReadsField set key read get) {t : Table} {start s : σ}
    {v : Setting} (distinct : (t.map (·.1)).Nodup) (found : t.lookup key = some v)
    (h : readFields set (t.map fun e => (e.1, e.1, e.2)) start = .ok s) :
    read v = .ok (get s) := by
  induction t generalizing start with
  | nil => cases found
  | cons e rest ih =>
    obtain ⟨k, value⟩ := e
    obtain ⟨fresh, distinct⟩ := List.nodup_cons.mp distinct
    obtain ⟨next, taken, more⟩ := bind_eq_ok_iff.mp h
    have taken := mapError_eq_ok_iff.mp taken
    rw [lookup_cons] at found
    split at found
    · rename_i same
      subst same
      cases found
      rw [field.hit taken, field.kept (lookup_of_fresh fresh) more]
    · exact ih distinct found more

end Fields

/-! ## The fields of the settings -/

section Keys

variable {key : String} {v : Setting}

theorem setExtension_cases {s s' : ExtensionSettings} (h : setExtension key v s = .ok s') :
    (key = "name" ∧ ∃ name, readText v = .ok name ∧ s' = { s with name }) ∨
    (key ≠ "name" ∧ s' = s) := by
  unfold setExtension at h
  split at h
  · obtain ⟨name, read, ⟨⟩⟩ := bind_eq_ok_iff.mp h
    exact .inl ⟨rfl, name, read, rfl⟩
  · cases h
    exact .inr ⟨‹_›, rfl⟩

theorem setCollector_cases {s s' : CollectorSettings} (h : setCollector key v s = .ok s') :
    (key = "config_uris" ∧ ∃ uris, readList readText v = .ok uris ∧
      s' = { s with configUris := uris }) ∨
    (key = "startup_timeout" ∧ ∃ ms, readMillis v = .ok ms ∧
      s' = { s with startupTimeoutMs := ms }) ∨
    (key ≠ "config_uris" ∧ key ≠ "startup_timeout" ∧ s' = s) := by
  unfold setCollector at h
  split at h
  · obtain ⟨uris, read, ⟨⟩⟩ := bind_eq_ok_iff.mp h
    exact .inl ⟨rfl, uris, read, rfl⟩
  · obtain ⟨ms, read, ⟨⟩⟩ := bind_eq_ok_iff.mp h
    exact .inr (.inl ⟨rfl, ms, read, rfl⟩)
  · cases h
    exact .inr (.inr ⟨‹_›, ‹_›, rfl⟩)

theorem setTelemetry_cases {s s' : TelemetrySettings} (h : setTelemetry key v s = .ok s') :
    (key = "enabled" ∧ ∃ enabled, readBool v = .ok enabled ∧ s' = { s with enabled }) ∨
    (key = "types" ∧ ∃ types, readList readType v = .ok types ∧ s' = { s with types }) ∨
    (key = "timeout" ∧ ∃ ms, readMillis v = .ok ms ∧ s' = { s with timeoutMs := ms }) ∨
    (key = "required" ∧ ∃ required, readBool v = .ok required ∧ s' = { s with required }) ∨
    (key ≠ "enabled" ∧ key ≠ "types" ∧ key ≠ "timeout" ∧ key ≠ "required" ∧ s' = s) := by
  unfold setTelemetry at h
  split at h
  · obtain ⟨enabled, read, ⟨⟩⟩ := bind_eq_ok_iff.mp h
    exact .inl ⟨rfl, enabled, read, rfl⟩
  · obtain ⟨types, read, ⟨⟩⟩ := bind_eq_ok_iff.mp h
    exact .inr (.inl ⟨rfl, types, read, rfl⟩)
  · obtain ⟨ms, read, ⟨⟩⟩ := bind_eq_ok_iff.mp h
    exact .inr (.inr (.inl ⟨rfl, ms, read, rfl⟩))
  · obtain ⟨required, read, ⟨⟩⟩ := bind_eq_ok_iff.mp h
    exact .inr (.inr (.inr (.inl ⟨rfl, required, read, rfl⟩)))
  · cases h
    exact .inr (.inr (.inr (.inr ⟨‹_›, ‹_›, ‹_›, ‹_›, rfl⟩)))

theorem setTop_cases {s s' : Settings} (h : setTop key v s = .ok s') :
    (key = "extension" ∧ ∃ extension, readExtension v = .ok extension ∧
      s' = { s with extension }) ∨
    (key = "runtime_api" ∧ ∃ api, readOptional v = .ok api ∧ s' = { s with runtimeApi := api }) ∨
    (key = "collector" ∧ ∃ collector, readCollector v = .ok collector ∧
      s' = { s with collector }) ∨
    (key = "telemetry_api" ∧ ∃ telemetry, readTelemetry v = .ok telemetry ∧
      s' = { s with telemetry }) ∨
    (key ≠ "extension" ∧ key ≠ "runtime_api" ∧ key ≠ "collector" ∧ key ≠ "telemetry_api" ∧
      s' = s) := by
  unfold setTop at h
  split at h
  · obtain ⟨extension, read, ⟨⟩⟩ := bind_eq_ok_iff.mp h
    exact .inl ⟨rfl, extension, read, rfl⟩
  · obtain ⟨api, read, ⟨⟩⟩ := bind_eq_ok_iff.mp h
    exact .inr (.inl ⟨rfl, api, read, rfl⟩)
  · obtain ⟨collector, read, ⟨⟩⟩ := bind_eq_ok_iff.mp h
    exact .inr (.inr (.inl ⟨rfl, collector, read, rfl⟩))
  · obtain ⟨telemetry, read, ⟨⟩⟩ := bind_eq_ok_iff.mp h
    exact .inr (.inr (.inr (.inl ⟨rfl, telemetry, read, rfl⟩)))
  · cases h
    exact .inr (.inr (.inr (.inr ⟨‹_›, ‹_›, ‹_›, ‹_›, rfl⟩)))

end Keys

theorem readsField_name : ReadsField setExtension "name" readText (·.name) where
  hit h := by grind [setExtension_cases h]
  miss _ h := by grind [setExtension_cases h]

theorem readsField_configUris :
    ReadsField setCollector "config_uris" (readList readText) (·.configUris) where
  hit h := by grind [setCollector_cases h]
  miss _ h := by grind [setCollector_cases h]

theorem readsField_startupTimeout :
    ReadsField setCollector "startup_timeout" readMillis (·.startupTimeoutMs) where
  hit h := by grind [setCollector_cases h]
  miss _ h := by grind [setCollector_cases h]

theorem readsField_enabled : ReadsField setTelemetry "enabled" readBool (·.enabled) where
  hit h := by grind [setTelemetry_cases h]
  miss _ h := by grind [setTelemetry_cases h]

theorem readsField_types : ReadsField setTelemetry "types" (readList readType) (·.types) where
  hit h := by grind [setTelemetry_cases h]
  miss _ h := by grind [setTelemetry_cases h]

theorem readsField_timeout : ReadsField setTelemetry "timeout" readMillis (·.timeoutMs) where
  hit h := by grind [setTelemetry_cases h]
  miss _ h := by grind [setTelemetry_cases h]

theorem readsField_required : ReadsField setTelemetry "required" readBool (·.required) where
  hit h := by grind [setTelemetry_cases h]
  miss _ h := by grind [setTelemetry_cases h]

theorem readsField_extension : ReadsField setTop "extension" readExtension (·.extension) where
  hit h := by grind [setTop_cases h]
  miss _ h := by grind [setTop_cases h]

theorem readsField_runtimeApi : ReadsField setTop "runtime_api" readOptional (·.runtimeApi) where
  hit h := by grind [setTop_cases h]
  miss _ h := by grind [setTop_cases h]

theorem readsField_collector : ReadsField setTop "collector" readCollector (·.collector) where
  hit h := by grind [setTop_cases h]
  miss _ h := by grind [setTop_cases h]

theorem readsField_telemetry : ReadsField setTop "telemetry_api" readTelemetry (·.telemetry) where
  hit h := by grind [setTop_cases h]
  miss _ h := by grind [setTop_cases h]

section Sections

variable {σ α : Type} {what : String} {names : List String} {key inside : String}
  {set : String → Setting → σ → Except SettingsError σ} {start : σ} {read : Reading α}
  {get : σ → α} {part : Settings → σ} {t : Table} {s : Settings} {v : Setting}

/-- A field of a section is read of the value at its path. -/
theorem read_of_reach? (outer : ReadsField setTop key (readSection what names set start) part)
    (inner : ReadsField set inside read get) (h : Ascending (table t))
    (descends : Descends [key, inside] (table t)) (found : reach? [key, inside] (table t) = some v)
    (reads : readSettings t = .ok s) : read v = .ok (get (part s)) := by
  obtain ⟨section', held, found⟩ := Option.bind_eq_some_iff.mp (reach?_cons .. ▸ found)
  obtain ⟨_, ⟨⟩, within⟩ := descends
  obtain ⟨entries, rfl, _⟩ := within section' held
  obtain ⟨value, held', ⟨⟩⟩ := Option.bind_eq_some_iff.mp (reach?_cons .. ▸ found)
  exact inner.read_of_lookup (h.of_lookup held).nodup held'
    (outer.read_of_lookup h.nodup held reads)

end Sections

end TelemetrySidecar.Setting

namespace TelemetrySidecar.Settings

open Setting

/-- A setting at the end of its path. -/
inductive Leaf where
  | name
  | runtimeApi
  | configUris
  | startupTimeout
  | enabled
  | types
  | timeout
  | required

namespace Leaf

def path : Leaf → List String
  | name => ["extension", "name"]
  | runtimeApi => ["runtime_api"]
  | configUris => ["collector", "config_uris"]
  | startupTimeout => ["collector", "startup_timeout"]
  | enabled => ["telemetry_api", "enabled"]
  | types => ["telemetry_api", "types"]
  | timeout => ["telemetry_api", "timeout"]
  | required => ["telemetry_api", "required"]

/-- The settings have at the leaf what a value reads as. -/
def Holds (s : Settings) : Leaf → Setting → Prop
  | name, v => readText v = .ok s.extension.name
  | runtimeApi, v => readOptional v = .ok s.runtimeApi
  | configUris, v => readList readText v = .ok s.collector.configUris
  | startupTimeout, v => readMillis v = .ok s.collector.startupTimeoutMs
  | enabled, v => readBool v = .ok s.telemetry.enabled
  | types, v => readList readType v = .ok s.telemetry.types
  | timeout, v => readMillis v = .ok s.telemetry.timeoutMs
  | required, v => readBool v = .ok s.telemetry.required

/-- No leaf is read from a table. -/
theorem Holds.isTable {leaf : Leaf} {s : Settings} {v : Setting} (h : leaf.Holds s v) :
    v.isTable = false := by
  cases v with
  | table entries => cases leaf <;> cases h
  | _ => rfl

/-- Settings that are read of a table have at a leaf what the value at its path reads as. -/
theorem holds_of_reach? {t : Table} {s : Settings} {v : Setting} (leaf : Leaf)
    (h : Ascending (.table t)) (descends : Descends leaf.path (.table t))
    (found : reach? leaf.path (.table t) = some v) (reads : readSettings t = .ok s) :
    leaf.Holds s v := by
  cases leaf with
  | name => exact read_of_reach? readsField_extension readsField_name h descends found reads
  | runtimeApi =>
    obtain ⟨value, held, ⟨⟩⟩ := Option.bind_eq_some_iff.mp (reach?_cons .. ▸ found)
    exact readsField_runtimeApi.read_of_lookup h.nodup held reads
  | configUris =>
    exact read_of_reach? readsField_collector readsField_configUris h descends found reads
  | startupTimeout =>
    exact read_of_reach? readsField_collector readsField_startupTimeout h descends found reads
  | enabled => exact read_of_reach? readsField_telemetry readsField_enabled h descends found reads
  | types => exact read_of_reach? readsField_telemetry readsField_types h descends found reads
  | timeout => exact read_of_reach? readsField_telemetry readsField_timeout h descends found reads
  | required => exact read_of_reach? readsField_telemetry readsField_required h descends found reads

end Leaf

end TelemetrySidecar.Settings
