import Mathlib
import TelemetrySidecar.Proofs.Resolution.Standard

/-
  Retrieving the sources in order

  A resolution asks for its sources one after the other and converts what they are
  merged into. The converters ask nobody.

  What is proved: whatever the hosts answer, the sources are retrieved in their
  order up to the first that does not yield a configuration, and none after it; if
  all do, the converters decide, and nothing more is exchanged
  (`standard_retrieves`).
-/

namespace TelemetrySidecar.Resolver

/-- Sources that were loaded one after the other, with the configurations they gave
and the exchanges before and after. -/
inductive Loads (r : Resolver Talk) : List String → Log → List Configuration → Log → Prop where
  | nil {log : Log} : Loads r [] log [] log
  | cons {uri : String} {uris : List String} {before between after : Log} {c : Configuration}
      {cs : List Configuration} (first : (r.load uri).Yields before c between)
      (rest : Loads r uris between cs after) : Loads r (uri :: uris) before (c :: cs) after

/-- What becomes of a resolution, with the exchanges before and after it. -/
inductive Retrieves (r : Resolver Talk) (uris : List String) (before : Log) :
    Option (Except ResolveError Configuration) → Log → Prop where
  | nothing (sources : uris = []) : Retrieves r uris before (some (.error .noSources)) before
  | all {cs : List Configuration} {after : Log} {outcome : Except ResolveError Configuration}
      (sources : uris ≠ []) (loads : Loads r uris before cs after)
      (converted : (convertAll (.mergeAll cs) r.converters).outcome after = (some outcome, after)) :
      Retrieves r uris before (some outcome) after
  | failed {loaded rest : List String} {uri : String} {cs : List Configuration}
      {between after : Log} {e : ResolveError} (order : uris = loaded ++ uri :: rest)
      (loads : Loads r loaded before cs between)
      (fails : (r.load uri).outcome between = (some (.error e), after)) :
      Retrieves r uris before (some (.error e)) after
  | waits {loaded rest : List String} {uri : String} {cs : List Configuration}
      {between after : Log} (order : uris = loaded ++ uri :: rest)
      (loads : Loads r loaded before cs between)
      (waits : (r.load uri).outcome between = (none, after)) :
      Retrieves r uris before none after

section

variable {r : Resolver Talk} {before after : Log}

/-- Loading all sources loads them in order up to the first that gives nothing. -/
theorem outcome_mapM_load : ∀ (uris : List String) (before : Log),
    (∃ cs after, Loads r uris before cs after ∧
      (uris.mapM r.load).outcome before = (some (.ok cs), after)) ∨
    ∃ loaded uri rest cs between after, uris = loaded ++ uri :: rest ∧
      Loads r loaded before cs between ∧
      (((r.load uri).outcome between = (none, after) ∧
        (uris.mapM r.load).outcome before = (none, after)) ∨
      ∃ e, (r.load uri).outcome between = (some (.error e), after) ∧
        (uris.mapM r.load).outcome before = (some (.error e), after))
  | [], before => .inl ⟨[], before, .nil, rfl⟩
  | uri :: uris, before => by
    rw [List.mapM_cons, Resolving.outcome_bind]
    rcases hfirst : (r.load uri).outcome before with ⟨_ | e | c, between⟩
    · exact .inr ⟨[], uri, uris, [], before, between, rfl, .nil, .inl ⟨hfirst, rfl⟩⟩
    · exact .inr ⟨[], uri, uris, [], before, between, rfl, .nil, .inr ⟨e, hfirst, rfl⟩⟩
    · dsimp only
      rw [Resolving.outcome_bind]
      rcases outcome_mapM_load uris between with
        ⟨cs, after, loads, hrest⟩ |
        ⟨loaded, source, rest, cs, later, after, rfl, loads, ⟨hsource, hrest⟩ | ⟨e, hsource, hrest⟩⟩
      · rw [hrest]
        exact .inl ⟨c :: cs, after, .cons hfirst loads, rfl⟩
      · rw [hrest]
        exact .inr ⟨uri :: loaded, source, rest, c :: cs, later, after, rfl,
          .cons hfirst loads, .inl ⟨hsource, rfl⟩⟩
      · rw [hrest]
        exact .inr ⟨uri :: loaded, source, rest, c :: cs, later, after, rfl,
          .cons hfirst loads, .inr ⟨e, hsource, rfl⟩⟩

/-- The converters always come to an end, and ask nobody. -/
theorem outcome_convertAll_standard (around : Surroundings) (uris : List String)
    (c : Configuration) (log : Log) :
    ∃ outcome, (convertAll c (standard around uris).converters).outcome log =
      (some outcome, log) := by
  simp only [standard, convertAll, Converter.expansion, Converter.quietExporters, pure_bind]
  cases (c.expand around.env).quietExporters? with
  | none => exact ⟨_, rfl⟩
  | some d => exact ⟨_, rfl⟩

/-- The standard resolver retrieves its sources in order, up to the first that
gives nothing. -/
theorem standard_retrieves (around : Surroundings) (uris : List String) (before : Log) :
    Retrieves (standard around uris) uris before ((standard around uris).resolve.outcome before).1
      ((standard around uris).resolve.outcome before).2 := by
  have huris : (standard around uris).uris = uris := rfl
  rw [resolve_eq, huris]
  cases hempty : uris.isEmpty with
  | true => exact .nothing (List.isEmpty_iff.mp hempty)
  | false =>
    have hsome : uris ≠ [] := by
      rintro rfl
      cases hempty
    rw [if_neg (by simp), Resolving.outcome_bind]
    rcases outcome_mapM_load (r := standard around uris) uris before with
      ⟨cs, after, loads, hall⟩ |
      ⟨loaded, uri, rest, cs, between, after, order, loads, ⟨hsource, hall⟩ | ⟨e, hsource, hall⟩⟩
    · obtain ⟨outcome, converted⟩ := outcome_convertAll_standard around uris
        (.mergeAll cs) after
      rw [hall]
      dsimp only
      rw [converted]
      exact .all hsome loads converted
    · rw [hall]
      exact .waits order loads hsource
    · rw [hall]
      exact .failed order loads hsource

end

end TelemetrySidecar.Resolver
