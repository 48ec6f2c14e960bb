import Mathlib
import TelemetrySidecar.Proofs.Configuration.Expansion
import TelemetrySidecar.Proofs.Configuration.Queues
import TelemetrySidecar.Proofs.Resolution.Recording
import TelemetrySidecar.Proofs.Resolution.Sources

/-
  What the standard resolver gives

  A resolution within some exchanges with hosts either yields a configuration,
  fails, or waits forever (`Resolving.Yields`). What the resolver with all
  providers and converters yields is the merge of its documents, expanded, and
  with its exporters switched off (`standard_yields_iff`).

  It is not so that every exporter's queue and retries are off then: an
  exporter whose name ends with a colon is passed over
  (`queues_on_under_colon`), and so is a queue that is a tagged mapping. Which
  switches are off is told exactly by `yielded_enabled_false_iff`.
-/

namespace TelemetrySidecar

namespace Resolving

variable {α β : Type}

/-- What comes of a resolution after some exchanges, unless it waits forever, and
the exchanges after it. -/
def outcome (x : Resolving Talk α) (before : Log) : Option (Except ResolveError α) × Log :=
  x.run.run.run before

/-- What is resolved after the exchanges `before`, with the exchanges after it. -/
def Yields (x : Resolving Talk α) (before : Log) (a : α) (after : Log) : Prop :=
  x.outcome before = (some (.ok a), after)

theorem yields_pure {a b : α} {before after : Log} :
    Yields (pure a) before b after ↔ a = b ∧ before = after := by
  have hp : outcome (pure a : Resolving Talk α) before = (some (.ok a), before) := rfl
  simp [Yields, hp]

theorem outcome_throw (e : ResolveError) (before : Log) :
    outcome (throw e : Resolving Talk α) before = (some (.error e), before) := rfl

theorem yields_throw (e : ResolveError) {before after : Log} (a : α) :
    Yields (throw e) before a after ↔ False := by
  simp [Yields, outcome_throw]

theorem outcome_bind (x : Resolving Talk α) (f : α → Resolving Talk β) (before : Log) :
    (x >>= f).outcome before = match x.outcome before with
      | (some (.ok a), between) => (f a).outcome between
      | (some (.error e), between) => (some (.error e), between)
      | (none, between) => (none, between) := by
  have same : x.outcome before = x.upon before := rfl
  change (x >>= f).upon before = _
  rw [upon_bind, same]
  rcases x.upon before with ⟨_ | (_ | _), _⟩ <;> rfl

/-- Steps one after the other yield what the second yields after the first. -/
theorem yields_bind {x : Resolving Talk α} {f : α → Resolving Talk β} {before after : Log}
    {b : β} :
    (x >>= f).Yields before b after ↔
      ∃ a between, x.Yields before a between ∧ (f a).Yields between b after := by
  unfold Yields
  rw [outcome_bind]
  rcases x.outcome before with ⟨_ | (_ | a), between⟩
  · simp
  · simp
  · constructor
    · intro h
      exact ⟨a, between, rfl, h⟩
    · rintro ⟨_, _, h, hf⟩
      cases h
      exact hf

/-- Each of the results that steps of one kind yield in a row is yielded by one
of them. -/
theorem yields_mapM {f : α → Resolving Talk β} :
    ∀ {xs : List α} {before after : Log} {bs : List β}, (xs.mapM f).Yields before bs after →
    ∀ b ∈ bs, ∃ x ∈ xs, ∃ between later, (f x).Yields between b later
  | [], before, after, bs, h => by
    rw [List.mapM_nil, yields_pure] at h
    simp [← h.1]
  | x :: xs, before, after, bs, h => by
    rw [List.mapM_cons, yields_bind] at h
    obtain ⟨a, between, hx, h⟩ := h
    rw [yields_bind] at h
    obtain ⟨as, later, hxs, h⟩ := h
    rw [yields_pure] at h
    rw [← h.1, List.forall_mem_cons]
    refine ⟨⟨x, List.mem_cons_self, before, between, hx⟩, ?_⟩
    intro b hb
    obtain ⟨y, hy, hyields⟩ := yields_mapM hxs b hb
    exact ⟨y, List.mem_cons_of_mem x hy, hyields⟩

end Resolving

namespace Resolver

/-- What a source yields is a configuration that some text describes. -/
theorem isDocument_of_load {r : Resolver Talk} {uri : String} {before after : Log}
    {c : Configuration} (h : (r.load uri).Yields before c after) : c.IsDocument := by
  unfold load at h
  dsimp only at h
  split at h
  · simp [Resolving.yields_throw] at h
  · obtain ⟨text, between, _, h⟩ := Resolving.yields_bind.mp h
    split at h
    · rename_i d hd
      rw [Resolving.yields_pure] at h
      obtain ⟨rfl, _⟩ := h
      unfold Configuration.ofSource at hd
      split at hd
      · rename_i ht
        cases hd; exact ⟨text, ht⟩
      · cases hd
      · cases hd
    · simp [Resolving.yields_throw] at h

variable {around : Surroundings} {uris : List String}

/-- The standard resolver yields what its sources are merged into, expanded, with
the exporters switched off. -/
theorem standard_yields_iff {before after : Log} {conf : Configuration} :
    (standard around uris).resolve.Yields before conf after ↔
      uris.isEmpty = false ∧
      ∃ ds, (uris.mapM (standard around uris).load).Yields before ds after ∧
        ((Configuration.mergeAll ds).expand around.env).quietExporters? = some conf := by
  -- The converters talk to no host, so the log stays as the sources left it.
  have hconvert : ∀ (c : Configuration) (between : Log),
      (convertAll c (standard around uris).converters).Yields between conf after ↔
        (c.expand around.env).quietExporters? = some conf ∧ between = after := by
    intro c between
    simp only [standard, convertAll, Converter.expansion, Converter.quietExporters, pure_bind]
    cases hq : (c.expand around.env).quietExporters? with
    | none => simp [Resolving.yields_throw]
    | some d => simp [Resolving.yields_pure]
  have huris : (standard around uris).uris = uris := rfl
  rw [resolve_eq, huris]
  cases he : uris.isEmpty with
  | true => simp [Resolving.yields_throw]
  | false =>
    rw [if_neg (by simp), Resolving.yields_bind]
    constructor
    · rintro ⟨ds, between, hds, h⟩
      obtain ⟨hq, rfl⟩ := (hconvert _ _).mp h
      exact ⟨rfl, ds, hds, hq⟩
    · rintro ⟨-, ds, hds, hq⟩
      exact ⟨ds, after, hds, (hconvert _ _).mpr ⟨hq, rfl⟩⟩

/-- What the sources of a resolution are loaded as describes documents. -/
theorem isDocument_of_mapM_load {r : Resolver Talk} {before after : Log}
    {ds : List Configuration} (h : (uris.mapM r.load).Yields before ds after) :
    ∀ d ∈ ds, d.IsDocument := by
  intro d hd
  obtain ⟨uri, _, _, _, hload⟩ := Resolving.yields_mapM h d hd
  exact isDocument_of_load hload

/-- A switch of an exporter is off in what the standard resolver yields if and
only if the expanded sources name the exporter, without a colon at the end, and
have no tagged mapping under the field, or if they switch it off themselves. -/
theorem yielded_enabled_false_iff {before after : Log} {conf : Configuration}
    {exporters : Mapping} (h : (standard around uris).resolve.Yields before conf after)
    (he : conf.root.find? (.text "exporters") = some (.map exporters)) :
    ∃ ds given, (uris.mapM (standard around uris).load).Yields before ds after ∧
      ((Configuration.mergeAll ds).expand around.env).root.find? (.text "exporters") =
        some (.map given) ∧
      ∀ k, ∀ f ∈ queueFields,
        (exporters.reach? [k, f, "enabled"] = some (.bool false) ↔
          (k ∈ given.filterMap (·.1.text?) ∧ k.toList.getLast? ≠ some ':' ∧
            ¬ Mapping.IsTaggedMapping ((Mapping.exporter given k).find? (.text f))) ∨
          (Mapping.exporter given k).reach? [f, "enabled"] = some (.bool false)) := by
  obtain ⟨-, ds, hds, hq⟩ := standard_yields_iff.mp h
  have hspread := (Configuration.regular_mergeAll (isDocument_of_mapM_load hds)).isSpread
  obtain ⟨given, hgiven, hsingle, rfl⟩ := Configuration.exporters_of_quietExporters?
    (hspread.expand around.env.lookup) hq he
  refine ⟨ds, given, hds, hgiven, ?_⟩
  intro k f hf
  exact Mapping.reach?_enabled_iff hf hsingle k

/-! ## An exporter that is passed over -/

/-- A source with one exporter, whose name ends with a colon. -/
def colonSource : String := "yaml:'exporters':\n 'a:':\n"

def colonGiven : Mapping := [(.text "a:", .null)]

/-- What becomes of it: the switches stand with an exporter nobody named. -/
def colonExporters : Mapping :=
  [(.text "a:", .map []),
    (.text "a", .map [(.text ":sending_queue", .map [(.text "enabled", .bool false)]),
      (.text ":retry_on_failure", .map [(.text "enabled", .bool false)])])]

def nowhere : Surroundings := ⟨.empty, .empty, .unreachable⟩

theorem load_colonSource :
    (standard nowhere [colonSource]).load colonSource =
      pure ⟨[(.text "exporters", .map colonGiven)]⟩ := by
  have hyaml : Node.ofYaml "'exporters':\n 'a:':\n" =
      .ok (.map [(.text "exporters", .map colonGiven)]) := by cbv
  have hspread : (Node.map [(.text "exporters", .map colonGiven)]).spread =
      .map [(.text "exporters", .map colonGiven)] := by
    have hexporters := Node.isSingle_text (s := "exporters") (by decide)
    have ha := Node.isSingle_text (s := "a:") (by decide)
    simp only [colonGiven, Node.spread, Node.spreadEntries,
      Mapping.ofEntry_of_isSingle hexporters, Mapping.ofEntry_of_isSingle ha]
    rfl
  have hof : Configuration.ofYaml "'exporters':\n 'a:':\n" =
      .ok ⟨[(.text "exporters", .map colonGiven)]⟩ := by
    simp [Configuration.ofYaml, hyaml, Configuration.ofNode?, hspread]
  have hscheme : SourceUri.scheme colonSource = "yaml" := by cbv
  have htext : SourceUri.without "yaml" colonSource = "'exporters':\n 'a:':\n" := by cbv
  unfold load
  rw [hscheme]
  simp only [standard, provider?]
  simp [Provider.inlineText, Provider.file, Provider.environment, htext, Configuration.ofSource, hof]

theorem quietExporter_colonGiven :
    (⟨[(.text "exporters", .map colonGiven)]⟩ : Configuration).quietExporter "a:" =
      ⟨[(.text "exporters", .map colonExporters)]⟩ := by
  have hbase : KeyPath.segments (KeyPath.join ["exporters", "a:"]) = ["exporters", "a:"] := by
    decide
  have hsend : KeyPath.segments
      (KeyPath.join [KeyPath.join ["exporters", "a:"], "sending_queue", "enabled"]) =
        ["exporters", "a", ":sending_queue", "enabled"] := by decide
  have hretry : KeyPath.segments
      (KeyPath.join [KeyPath.join ["exporters", "a:"], "retry_on_failure", "enabled"]) =
        ["exporters", "a", ":retry_on_failure", "enabled"] := by decide
  simp only [Configuration.quietExporter, Configuration.get?, Configuration.set, hbase, hsend,
    hretry]
  rfl

theorem yields_colonSource :
    (standard nowhere [colonSource]).resolve.Yields []
      ⟨[(.text "exporters", .map colonExporters)]⟩ [] := by
  refine standard_yields_iff.mpr ⟨rfl, [⟨[(.text "exporters", .map colonGiven)]⟩], ?_, ?_⟩
  · simp [load_colonSource, Resolving.yields_pure]
  · exact congrArg some quietExporter_colonGiven

/-- Its switches are not off, though its name is a plain key. -/
theorem queues_on_under_colon :
    (standard nowhere [colonSource]).resolve.Yields []
      ⟨[(.text "exporters", .map colonExporters)]⟩ [] ∧
    (.text "a:", .map []) ∈ colonExporters ∧ KeyPath.isNested "a:" = false ∧
    ∀ f ∈ queueFields, Mapping.reach? ["a:", f, "enabled"] colonExporters ≠
      some (.bool false) := by
  refine ⟨yields_colonSource, List.mem_cons_self, by decide, ?_⟩
  intro f _
  simp [Mapping.reach?, colonExporters, Mapping.find?, Node.same, Node.entries?, Node.untagged]

/-- The general rule at this source, which says so of both switches. -/
theorem yielded_enabled_false_iff_colonSource :
    (standard nowhere [colonSource]).resolve.Yields []
      ⟨[(.text "exporters", .map colonExporters)]⟩ [] ∧
    ∃ ds given, ([colonSource].mapM (standard nowhere [colonSource]).load).Yields [] ds [] ∧
      ((Configuration.mergeAll ds).expand .empty).root.find? (.text "exporters") =
        some (.map given) ∧
      ∀ k, ∀ f ∈ queueFields,
        (Mapping.reach? [k, f, "enabled"] colonExporters = some (.bool false) ↔
          (k ∈ given.filterMap (·.1.text?) ∧ k.toList.getLast? ≠ some ':' ∧
            ¬ Mapping.IsTaggedMapping ((Mapping.exporter given k).find? (.text f))) ∨
          (Mapping.exporter given k).reach? [f, "enabled"] = some (.bool false)) :=
  ⟨yields_colonSource, yielded_enabled_false_iff yields_colonSource rfl⟩

end Resolver

end TelemetrySidecar
