import Mathlib
import TelemetrySidecar.Proofs.Configuration.Precedence
import TelemetrySidecar.Proofs.Configuration.Spread
import TelemetrySidecar.Resolution.Resolver

/-
  Sources in order

  To resolve is to load every source, to merge what was loaded in order over
  the empty configuration, and to convert the result (`resolve_eq`). So a later
  source wins: of the values that are no mappings, the merged tree holds at a
  path the one of the last source that settles the path
  (`merged_at?_iff_last_settling`).
-/

namespace TelemetrySidecar

namespace Configuration

/-- Configurations merged in order into the empty one. -/
def mergeAll (ds : List Configuration) : Configuration := ds.foldl merge empty

/-- A configuration that some text describes. -/
def IsDocument (c : Configuration) : Prop := ∃ text, ofYaml text = .ok c

theorem IsDocument.regular {c : Configuration} (h : c.IsDocument) : c.Regular := by
  obtain ⟨text, ht⟩ := h
  exact regular_ofYaml ht

theorem regular_foldl_merge {ds : List Configuration} (hd : ∀ d ∈ ds, d.Regular) :
    ∀ {c : Configuration}, c.Regular → (ds.foldl merge c).Regular := by
  induction ds with
  | nil => exact fun hc => hc
  | cons d ds ih =>
    intro c hc
    rw [List.forall_mem_cons] at hd
    exact ih hd.2 (hc.merge hd.1)

theorem regular_mergeAll {ds : List Configuration} (hd : ∀ d ∈ ds, d.IsDocument) :
    (mergeAll ds).Regular :=
  regular_foldl_merge (fun d h => (hd d h).regular) regular_empty

end Configuration

namespace Resolver

variable {m : Type → Type} [Monad m] [LawfulMonad m]

theorem loadAll_eq (r : Resolver m) (uris : List String) : ∀ c : Configuration,
    r.loadAll c uris = (do
      let ds ← uris.mapM r.load
      pure (ds.foldl Configuration.merge c)) := by
  induction uris with
  | nil => intro c; simp [loadAll]
  | cons uri uris ih => intro c; simp [loadAll, ih]

theorem resolve_eq (r : Resolver m) :
    r.resolve = (if r.uris.isEmpty then throw .noSources else do
      let ds ← r.uris.mapM r.load
      convertAll (.mergeAll ds) r.converters) := by
  rw [resolve, loadAll_eq]
  split
  · rfl
  · simp [Configuration.mergeAll]

/-- Resolving merges the sources in order before the converters run, and the
merged tree holds a value that is no mapping at a path if and only if some
source holds it there and no later one holds any value there, nor one that is no
mapping on the way. -/
theorem merged_at?_iff_last_settling (r : Resolver m) :
    (r.resolve = if r.uris.isEmpty then throw .noSources else do
      let ds ← r.uris.mapM r.load
      convertAll (.mergeAll ds) r.converters) ∧
    ∀ {ds : List Configuration}, (∀ d ∈ ds, d.IsDocument) →
    ∀ {path : List Node}, (∀ key ∈ path, key.WellFormed) →
    ∀ {v : Node}, v.isMapping = false →
    ((Configuration.mergeAll ds).root.at? path = some v ↔
      ∃ before d after, ds = before ++ d :: after ∧ d.root.at? path = some v ∧
        ∀ e ∈ after, ¬ e.root.Settles path) := by
  refine ⟨r.resolve_eq, ?_⟩
  intro ds hd path hp v hv
  have hempty : ∀ path : List Node, Configuration.empty.root.at? path ≠ some v := by
    intro path
    cases path with
    | nil => simp [Mapping.at?]
    | cons key rest => simp [Mapping.at?_of_find?_none (m := Configuration.empty.root) rfl rest]
  rw [Configuration.mergeAll, Mapping.at?_foldl_merge hv hp fun d h => (hd d h).regular.wellFormed]
  simp [hempty]

/-- Three sources: a scalar, a mapping in its place, and more for that mapping. -/
def threeSources : List Configuration :=
  [⟨[(.text "a", .int 5)]⟩, ⟨[(.text "a", .map [(.text "b", .int 1)])]⟩,
    ⟨[(.text "a", .map [(.text "c", .int 3)])]⟩]

theorem merged_at?_threeSources :
    (∀ d ∈ threeSources, d.IsDocument) ∧
    (∀ key ∈ [Node.text "a", .text "b"], key.WellFormed) ∧ (Node.int 1).isMapping = false ∧
    (Configuration.mergeAll threeSources).root.at? [.text "a", .text "b"] = some (.int 1) := by
  have hd : ∀ d ∈ threeSources, d.IsDocument := by
    simp only [threeSources, List.forall_mem_cons]
    refine ⟨⟨"'a': 5", by cbv⟩, ⟨"'a':\n 'b': 1", by cbv⟩, ⟨"'a':\n 'c': 3", by cbv⟩, by simp⟩
  have hp : ∀ key ∈ [Node.text "a", .text "b"], key.WellFormed := by
    simp only [List.forall_mem_cons]
    exact ⟨.text "a", .text "b", by simp⟩
  refine ⟨hd, hp, rfl, ?_⟩
  refine ((merged_at?_iff_last_settling (m := Id) ⟨[], [], []⟩).2 hd hp rfl).mpr
    ⟨[⟨[(.text "a", .int 5)]⟩], ⟨[(.text "a", .map [(.text "b", .int 1)])]⟩, _, rfl, by cbv, ?_⟩
  simp only [List.forall_mem_cons]
  refine ⟨?_, by simp⟩
  rw [Mapping.settles_of_find?_map rfl (by simp)]
  exact Mapping.settles_of_find?_none rfl _

end Resolver

end TelemetrySidecar
