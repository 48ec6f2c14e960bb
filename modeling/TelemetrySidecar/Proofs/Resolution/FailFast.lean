import Mathlib
import TelemetrySidecar.Proofs.Resolution.Recording
import TelemetrySidecar.Proofs.Resolution.Sources

/-
  The first failure ends a resolution

  Sources are loaded in order, each by one call of the provider that was
  registered last for its scheme. A source that cannot be loaded ends the
  resolution with its error, and so does a converter that fails. Which providers
  and converters there are, and what they answer in which world, is left open.

  What is proved: registering keeps the last provider of each scheme and all
  converters in order (`registers`). Sources that were loaded leave exactly their
  calls behind, whatever follows them (`Gathers.loadAll`); one that fails or never
  answers leaves its own call and nothing after it (`Fails.loadAll`,
  `Waits.loadAll`). With the converters' calls (`Converts.convertAll`) this tells
  the course of every resolution (`run_eq_iff`), which does not depend on the
  sources after one that fails (`failsFast`, `resolution_fails_fast`).
-/

namespace TelemetrySidecar.Resolver

variable {W : Type}

/-! ## Registering -/

/-- Something that is registered with a resolver. -/
inductive Registration (W : Type) where
  | provider (p : Provider (Work W))
  | converter (k : Converter (Work W))

def register (r : Resolver (Work W)) : Registration W → Resolver (Work W)
  | .provider p => r.withProvider p
  | .converter k => r.withConverter k

/-- A resolver of sources with all that was registered, the first one first. -/
def registered (uris : List String) (regs : List (Registration W)) : Resolver (Work W) :=
  regs.foldl register { uris }

def Registration.converter? : Registration W → Option (Converter (Work W))
  | .converter k => some k
  | .provider _ => none

/-- The last provider that was registered for a scheme. -/
def LastFor (regs : List (Registration W)) (scheme : String) (p : Provider (Work W)) : Prop :=
  ∃ before after, regs = before ++ .provider p :: after ∧ p.scheme = scheme ∧
    ∀ q, .provider q ∈ after → q.scheme ≠ scheme

section

variable {regs : List (Registration W)} {reg : Registration W} {scheme : String}
  {p : Provider (Work W)}

theorem lastFor_snoc : LastFor (regs ++ [reg]) scheme p ↔
    (reg = .provider p ∧ p.scheme = scheme) ∨
      (LastFor regs scheme p ∧ ∀ q, reg = .provider q → q.scheme ≠ scheme) := by
  constructor
  · rintro ⟨before, after, hregs, own, others⟩
    -- The provider is the one registered last of all, or was there before.
    rcases List.eq_nil_or_concat after with rfl | ⟨after, last, rfl⟩
    · exact .inl ⟨(List.append_singleton_inj.mp hregs).2, own⟩
    · rw [List.concat_eq_append] at hregs others
      rw [← List.cons_append, ← List.append_assoc] at hregs
      obtain ⟨rfl, rfl⟩ := List.append_singleton_inj.mp hregs
      refine .inr ⟨⟨before, after, rfl, own, fun q hq => others q (by simp [hq])⟩, ?_⟩
      rintro q rfl
      exact others q (by simp)
  · rintro (⟨rfl, own⟩ | ⟨⟨before, after, rfl, own, others⟩, last⟩)
    · exact ⟨regs, [], rfl, own, by simp⟩
    · refine ⟨before, after ++ [reg], by simp, own, fun q hq => ?_⟩
      rcases List.mem_append.mp hq with hq | hq
      · exact others q hq
      · exact last q (List.mem_singleton.mp hq).symm

theorem provider?_withProvider (r : Resolver (Work W)) (q : Provider (Work W)) (scheme : String) :
    (r.withProvider q).provider? scheme =
      if q.scheme = scheme then some q else r.provider? scheme := by
  unfold withProvider provider?
  by_cases own : q.scheme = scheme
  · rw [List.find?_cons_of_pos (by simpa using own), if_pos own]
  · rw [List.find?_cons_of_neg (by simpa using own), if_neg own, List.find?_filter]
    -- The providers that were taken out serve another scheme.
    congr
    funext p
    by_cases hp : p.scheme = scheme
    · simpa [hp] using Ne.symm own
    · simp [hp]

theorem registered_snoc (uris : List String) :
    registered uris (regs ++ [reg]) = register (registered uris regs) reg := by
  simp [registered]

/-- A scheme is served by the last provider that was registered for it. -/
theorem provider?_registered (uris : List String) :
    (registered uris regs).provider? scheme = some p ↔ LastFor regs scheme p := by
  induction regs using List.reverseRecOn with
  | nil => simp [registered, provider?, LastFor]
  | append_singleton regs reg ih =>
    rw [registered_snoc, lastFor_snoc, ← ih]
    cases reg with
    | provider q =>
      rw [register, provider?_withProvider]
      split
      · rename_i own
        constructor
        · rintro ⟨⟩
          exact .inl ⟨rfl, own⟩
        · rintro (⟨same, -⟩ | ⟨-, other⟩)
          · cases same
            rfl
          · exact absurd own (other q rfl)
      · rename_i other
        constructor
        · intro before
          refine .inr ⟨before, ?_⟩
          rintro q ⟨⟩
          exact other
        · rintro (⟨same, own⟩ | ⟨before, -⟩)
          · cases same
            exact absurd own other
          · exact before
    | converter k =>
      have same : (register (registered uris regs) (.converter k)).provider? scheme =
        (registered uris regs).provider? scheme := rfl
      simp [same]

theorem converters_registered (uris : List String) :
    (registered uris regs).converters = regs.filterMap Registration.converter? := by
  induction regs using List.reverseRecOn with
  | nil => rfl
  | append_singleton regs reg ih =>
    rw [registered_snoc, List.filterMap_append, ← ih]
    cases reg <;> simp [register, withProvider, withConverter, Registration.converter?]

theorem uris_registered (uris : List String) : (registered uris regs).uris = uris := by
  induction regs using List.reverseRecOn with
  | nil => rfl
  | append_singleton regs reg ih =>
    rw [registered_snoc]
    cases reg <;> exact ih

end

/-! ## Sources -/

section

variable (serve : String → Option (Provider (Work W)))

/-- Sources that were loaded one after the other, with the configurations they
gave, the worlds before and after, and the calls that were made. -/
inductive Gathers : List String → W → List Configuration → W → List (Call W) → Prop where
  | nil {w : W} : Gathers [] w [] w []
  | cons {uri text : String} {uris : List String} {p : Provider (Work W)} {c : Configuration}
      {cs : List Configuration} {before between after : W} {calls : List (Call W)}
      (served : serve (SourceUri.scheme uri) = some p)
      (answer : (p.retrieve uri).upon before = (some (.ok text), between))
      (document : Configuration.ofSource uri text = .ok c)
      (rest : Gathers uris between cs after calls) :
      Gathers (uri :: uris) before (c :: cs) after (.retrieve p uri :: calls)

/-- A source that cannot be loaded, with its error, the worlds before and after,
and the call that was made, if any. -/
inductive Fails (uri : String) (before : W) : ResolveError → W → List (Call W) → Prop where
  | unserved (unserved : serve (SourceUri.scheme uri) = none) :
      Fails uri before (.unsupportedScheme uri (SourceUri.scheme uri)) before []
  | refused {p : Provider (Work W)} {e : ResolveError} {after : W}
      (served : serve (SourceUri.scheme uri) = some p)
      (answer : (p.retrieve uri).upon before = (some (.error e), after)) :
      Fails uri before e after [.retrieve p uri]
  | notYaml {p : Provider (Work W)} {text : String} {fault : Yaml.Fault} {after : W}
      (served : serve (SourceUri.scheme uri) = some p)
      (answer : (p.retrieve uri).upon before = (some (.ok text), after))
      (document : Configuration.ofYaml text = .error (.yaml fault)) :
      Fails uri before (.notYaml uri fault) after [.retrieve p uri]
  | notAMapping {p : Provider (Work W)} {text : String} {after : W}
      (served : serve (SourceUri.scheme uri) = some p)
      (answer : (p.retrieve uri).upon before = (some (.ok text), after))
      (document : Configuration.ofYaml text = .error .notAMapping) :
      Fails uri before (.notAMapping uri) after [.retrieve p uri]

/-- A source whose provider never answers. -/
inductive Waits (uri : String) (before : W) : W → List (Call W) → Prop where
  | unanswered {p : Provider (Work W)} {after : W}
      (served : serve (SourceUri.scheme uri) = some p)
      (answer : (p.retrieve uri).upon before = (none, after)) :
      Waits uri before after [.retrieve p uri]

end

section

variable {r : Resolver (Work W)} {uri : String} {uris : List String} {before after : W}
  {cs : List Configuration} {calls noted : List (Call W)} {e : ResolveError}

theorem upon_load_of_served {p : Provider (Work W)}
    (served : r.provider? (SourceUri.scheme uri) = some p) (before : W) (noted : List (Call W)) :
    (r.noted.load uri).upon (before, noted) =
      (((p.retrieve uri).upon before).1.map (· >>= Configuration.ofSource uri),
        ((p.retrieve uri).upon before).2, noted ++ [.retrieve p uri]) := by
  simp only [load, provider?_noted, served, Option.map_some, Resolving.upon_bind, noteProvider,
    upon_noting]
  rcases (p.retrieve uri).upon before with ⟨_ | e | text, between⟩
  · rfl
  · rfl
  · dsimp only
    cases h : Configuration.ofSource uri text with
    | ok c => simp [h, Resolving.upon_pure, bind, Except.bind]
    | error e => simp [h, Resolving.upon_throw, bind, Except.bind]

theorem upon_load_of_unserved (unserved : r.provider? (SourceUri.scheme uri) = none) (before : W)
    (noted : List (Call W)) : (r.noted.load uri).upon (before, noted) =
      (some (.error (.unsupportedScheme uri (SourceUri.scheme uri))), before, noted) := by
  simp only [load, provider?_noted, unserved, Option.map_none]
  rfl

/-- Sources that were loaded leave their calls behind, whatever comes after them. -/
theorem Gathers.loadAll (h : Gathers r.provider? uris before cs after calls) :
    ∀ (c : Configuration) (rest : List String) (noted : List (Call W)),
    (r.noted.loadAll c (uris ++ rest)).upon (before, noted) =
      (r.noted.loadAll (cs.foldl .merge c) rest).upon (after, noted ++ calls) := by
  induction h with
  | nil => simp
  | cons served answer document _ ih =>
    intro c rest noted
    rw [List.cons_append, Resolver.loadAll, Resolving.upon_bind, upon_load_of_served served, answer]
    simp only [Option.map_some, bind, Except.bind, document]
    rw [ih, List.append_assoc]
    rfl

theorem Fails.load (h : Fails r.provider? uri before e after calls) (noted : List (Call W)) :
    (r.noted.load uri).upon (before, noted) = (some (.error e), after, noted ++ calls) := by
  cases h with
  | unserved unserved => rw [upon_load_of_unserved unserved, List.append_nil]
  | refused served answer =>
    rw [upon_load_of_served served, answer]
    rfl
  | notYaml served answer document | notAMapping served answer document =>
    rw [upon_load_of_served served, answer]
    simp [Configuration.ofSource, document, bind, Except.bind]

theorem Waits.load (h : Waits r.provider? uri before after calls) (noted : List (Call W)) :
    (r.noted.load uri).upon (before, noted) = (none, after, noted ++ calls) := by
  obtain ⟨served, answer⟩ := h
  rw [upon_load_of_served served, answer]
  rfl

/-- A source that fails is the last one that is asked for. -/
theorem Fails.loadAll (h : Fails r.provider? uri before e after calls) (c : Configuration)
    (rest : List String) (noted : List (Call W)) :
    (r.noted.loadAll c (uri :: rest)).upon (before, noted) =
      (some (.error e), after, noted ++ calls) := by
  rw [Resolver.loadAll, Resolving.upon_bind, h.load]

theorem Waits.loadAll (h : Waits r.provider? uri before after calls) (c : Configuration)
    (rest : List String) (noted : List (Call W)) :
    (r.noted.loadAll c (uri :: rest)).upon (before, noted) = (none, after, noted ++ calls) := by
  rw [Resolver.loadAll, Resolving.upon_bind, h.load]

/-- A source is loaded, fails or is waited for. -/
theorem source_cases (serve : String → Option (Provider (Work W))) (uri : String) (before : W) :
    (∃ p text c between, serve (SourceUri.scheme uri) = some p ∧
      (p.retrieve uri).upon before = (some (.ok text), between) ∧
      Configuration.ofSource uri text = .ok c) ∨
    (∃ e after calls, Fails serve uri before e after calls) ∨
    ∃ after calls, Waits serve uri before after calls := by
  cases served : serve (SourceUri.scheme uri) with
  | none => exact .inr (.inl ⟨_, _, _, .unserved served⟩)
  | some p =>
    rcases answer : (p.retrieve uri).upon before with ⟨_ | e | text, after⟩
    · exact .inr (.inr ⟨_, _, .unanswered served answer⟩)
    · exact .inr (.inl ⟨_, _, _, .refused served answer⟩)
    · cases document : Configuration.ofYaml text with
      | ok c =>
        have loaded : Configuration.ofSource uri text = .ok c := by
          simp [Configuration.ofSource, document]
        exact .inl ⟨p, text, c, after, rfl, answer, loaded⟩
      | error fault =>
        cases fault with
        | yaml fault => exact .inr (.inl ⟨_, _, _, .notYaml served answer document⟩)
        | notAMapping => exact .inr (.inl ⟨_, _, _, .notAMapping served answer document⟩)

/-- Sources are loaded up to the first that fails or is waited for, if any. -/
theorem gathers_cases (serve : String → Option (Provider (Work W))) :
    ∀ (uris : List String) (before : W),
    (∃ cs after calls, Gathers serve uris before cs after calls) ∨
    ∃ loaded uri rest cs between calls, uris = loaded ++ uri :: rest ∧
      Gathers serve loaded before cs between calls ∧
      ((∃ e after called, Fails serve uri between e after called) ∨
        ∃ after called, Waits serve uri between after called)
  | [], before => .inl ⟨[], before, [], .nil⟩
  | uri :: uris, before => by
    rcases source_cases serve uri before with ⟨p, text, c, between, served, answer, document⟩ | ends
    · rcases gathers_cases serve uris between with
        ⟨cs, after, calls, gathers⟩ | ⟨loaded, last, rest, cs, later, calls, rfl, gathers, ends⟩
      · exact .inl ⟨_, _, _, .cons served answer document gathers⟩
      · exact .inr ⟨uri :: loaded, last, rest, _, _, _, rfl,
          .cons served answer document gathers, ends⟩
    · exact .inr ⟨[], uri, uris, [], before, [], rfl, .nil, ends⟩

/-- The providers are called for the sources in their order, once for each. -/
theorem Gathers.sources {serve : String → Option (Provider (Work W))}
    (h : Gathers serve uris before cs after calls) :
    calls.map Call.source? = uris.map some := by
  induction h with
  | nil => rfl
  | cons _ _ _ _ ih => simp [Call.source?, ih]

theorem Fails.sources {serve : String → Option (Provider (Work W))}
    (h : Fails serve uri before e after calls) : calls.map Call.source? =
      if (serve (SourceUri.scheme uri)).isSome then [some uri] else [] := by
  cases h with
  | unserved unserved => simp [unserved]
  | refused served | notYaml served | notAMapping served => simp [served, Call.source?]

end

/-! ## Converters -/

/-- What becomes of a configuration under converters in order: each changes what
the one before it gave, until one fails or never answers. -/
inductive Converts : List (Converter (Work W)) → Configuration → W →
    Option (Except ResolveError Configuration) → W → List (Call W) → Prop where
  | done {c : Configuration} {w : W} : Converts [] c w (some (.ok c)) w []
  | next {k : Converter (Work W)} {ks : List (Converter (Work W))} {c d : Configuration}
      {before between after : W} {calls : List (Call W)}
      {outcome : Option (Except ResolveError Configuration)}
      (answer : (k.convert c).upon before = (some (.ok d), between))
      (rest : Converts ks d between outcome after calls) :
      Converts (k :: ks) c before outcome after (.convert k c :: calls)
  | fails {k : Converter (Work W)} {ks : List (Converter (Work W))} {c : Configuration}
      {e : ResolveError} {before after : W}
      (answer : (k.convert c).upon before = (some (.error e), after)) :
      Converts (k :: ks) c before (some (.error e)) after [.convert k c]
  | waits {k : Converter (Work W)} {ks : List (Converter (Work W))} {c : Configuration}
      {before after : W} (answer : (k.convert c).upon before = (none, after)) :
      Converts (k :: ks) c before none after [.convert k c]

theorem exists_converts : ∀ (ks : List (Converter (Work W))) (c : Configuration) (before : W),
    ∃ outcome after calls, Converts ks c before outcome after calls
  | [], c, before => ⟨_, before, [], .done⟩
  | k :: ks, c, before => by
    rcases answer : (k.convert c).upon before with ⟨_ | e | d, between⟩
    · exact ⟨_, _, _, .waits answer⟩
    · exact ⟨_, _, _, .fails answer⟩
    · obtain ⟨outcome, after, calls, rest⟩ := exists_converts ks d between
      exact ⟨_, _, _, .next answer rest⟩

/-- Converters leave exactly their calls behind. -/
theorem Converts.convertAll {ks : List (Converter (Work W))} {c : Configuration} {before after : W}
    {outcome : Option (Except ResolveError Configuration)} {calls : List (Call W)}
    (h : Converts ks c before outcome after calls) : ∀ noted : List (Call W),
    (convertAll c (ks.map noteConverter)).upon (before, noted) =
      (outcome, after, noted ++ calls) := by
  induction h with
  | done => simp [Resolver.convertAll, Resolving.upon_pure]
  | next answer _ ih =>
    intro noted
    rw [List.map_cons, Resolver.convertAll, Resolving.upon_bind, noteConverter, upon_noting, answer]
    dsimp only
    rw [ih, List.append_assoc]
    rfl
  | fails answer | waits answer =>
    intro noted
    rw [List.map_cons, Resolver.convertAll, Resolving.upon_bind, noteConverter, upon_noting, answer]

/-! ## The whole resolution -/

/-- The course of a resolution: its outcome, the world after it, and the calls
that were made. -/
inductive Course (r : Resolver (Work W)) (before : W) :
    Option (Except ResolveError Configuration) → W → List (Call W) → Prop where
  | nothing (sources : r.uris = []) : Course r before (some (.error .noSources)) before []
  | failed {loaded rest : List String} {uri : String} {cs : List Configuration}
      {between after : W} {e : ResolveError} {calls called : List (Call W)}
      (order : r.uris = loaded ++ uri :: rest)
      (gathers : Gathers r.provider? loaded before cs between calls)
      (fails : Fails r.provider? uri between e after called) :
      Course r before (some (.error e)) after (calls ++ called)
  | waits {loaded rest : List String} {uri : String} {cs : List Configuration}
      {between after : W} {calls called : List (Call W)} (order : r.uris = loaded ++ uri :: rest)
      (gathers : Gathers r.provider? loaded before cs between calls)
      (waits : Waits r.provider? uri between after called) :
      Course r before none after (calls ++ called)
  | converted {cs : List Configuration} {between after : W}
      {outcome : Option (Except ResolveError Configuration)} {calls called : List (Call W)}
      (sources : r.uris ≠ []) (gathers : Gathers r.provider? r.uris before cs between calls)
      (converts : Converts r.converters (.mergeAll cs) between outcome after called) :
      Course r before outcome after (calls ++ called)

section

variable {r : Resolver (Work W)} {before after : W}
  {outcome : Option (Except ResolveError Configuration)} {calls : List (Call W)}

theorem run_of_sources (sources : r.uris ≠ []) (before : W) :
    r.run before = (r.noted.loadAll .empty r.uris >>= fun c =>
      convertAll c (r.converters.map noteConverter)).upon (before, []) := by
  rw [run, resolve, if_neg]
  · rfl
  · simpa [noted] using sources

theorem exists_course (r : Resolver (Work W)) (before : W) :
    ∃ outcome after calls, Course r before outcome after calls := by
  by_cases sources : r.uris = []
  · exact ⟨_, _, _, .nothing sources⟩
  · rcases gathers_cases r.provider? r.uris before with
      ⟨cs, between, calls, gathers⟩ |
      ⟨loaded, uri, rest, cs, between, calls, order, gathers,
        ⟨e, after, called, fails⟩ | ⟨after, called, waits⟩⟩
    · obtain ⟨outcome, after, called, converts⟩ :=
        exists_converts r.converters (.mergeAll cs) between
      exact ⟨_, _, _, .converted sources gathers converts⟩
    · exact ⟨_, _, _, .failed order gathers fails⟩
    · exact ⟨_, _, _, .waits order gathers waits⟩

theorem Course.run (h : Course r before outcome after calls) :
    r.run before = (outcome, after, calls) := by
  cases h with
  | nothing sources =>
    have none : r.noted.uris.isEmpty = true := by simp [noted, sources]
    rw [Resolver.run, resolve, if_pos none]
    rfl
  | failed order gathers fails =>
    rw [run_of_sources (by simp [order]), Resolving.upon_bind, order, gathers.loadAll,
      fails.loadAll]
    rfl
  | waits order gathers waits =>
    rw [run_of_sources (by simp [order]), Resolving.upon_bind, order, gathers.loadAll,
      waits.loadAll]
    rfl
  | converted sources gathers converts =>
    rw [run_of_sources sources, Resolving.upon_bind, ← List.append_nil r.uris, gathers.loadAll]
    exact converts.convertAll _

/-- A resolution takes its course, and there is only one. -/
theorem run_eq_iff : r.run before = (outcome, after, calls) ↔
    Course r before outcome after calls := by
  constructor
  · intro h
    obtain ⟨_, _, _, course⟩ := exists_course r before
    cases course.run.symm.trans h
    exact course
  · exact Course.run

/-- Without a source nobody is called, and only then does a resolution say that
there is none. -/
theorem nothing_iff : ((r.run before).1 = some (.error .noSources) ∧ (r.run before).2.2 = []) ↔
    r.uris = [] := by
  constructor
  · obtain ⟨outcome, after, calls, course⟩ := exists_course r before
    rw [course.run]
    rintro ⟨none, uncalled⟩
    dsimp only at none uncalled
    cases course with
    | nothing sources => exact sources
    | failed _ _ fails =>
      obtain ⟨-, uncalled⟩ := List.append_eq_nil_iff.mp uncalled
      cases fails <;> simp at none uncalled
    | waits => cases none
    | converted _ gathers =>
      obtain ⟨uncalled, -⟩ := List.append_eq_nil_iff.mp uncalled
      have unasked := gathers.sources
      rw [uncalled] at unasked
      simpa using unasked.symm
  · intro sources
    rw [(Course.nothing sources).run]
    exact ⟨rfl, rfl⟩

end

/-- What a resolver of sources holds of all that was registered. -/
structure Registers (uris : List String) (regs : List (Registration W))
    (r : Resolver (Work W)) : Prop where
  uris : r.uris = uris
  /-- A scheme is served by the provider that was registered last for it. -/
  served (scheme : String) (p : Provider (Work W)) :
    r.provider? scheme = some p ↔ LastFor regs scheme p
  converters : r.converters = regs.filterMap Registration.converter?

theorem registers (uris : List String) (regs : List (Registration W)) :
    Registers uris regs (registered uris regs) where
  uris := uris_registered uris
  served _ _ := provider?_registered uris
  converters := converters_registered uris

/-- What holds of every resolution. -/
structure FailsFast (r : Resolver (Work W)) (before : W) : Prop where
  /-- The calls are noted in the resolution itself, and the notes change nothing. -/
  unchanged : (r.run before).1 = (r.resolve.upon before).1 ∧
    (r.run before).2.1 = (r.resolve.upon before).2
  /-- A source that fails ends the resolution with its error, whatever sources
  follow it: the providers were called for those before it, once each and in
  order, then for it if it is served, and nobody else was called. -/
  failed {loaded rest : List String} {uri : String} {cs : List Configuration} {between after : W}
    {e : ResolveError} {calls called : List (Call W)} (order : r.uris = loaded ++ uri :: rest)
    (gathers : Gathers r.provider? loaded before cs between calls)
    (fails : Fails r.provider? uri between e after called) :
    ((calls ++ called).map Call.source? = loaded.map some ++
      if (r.provider? (SourceUri.scheme uri)).isSome then [some uri] else []) ∧
    ∀ others, { r with uris := loaded ++ uri :: others }.run before =
      (some (.error e), after, calls ++ called)
  /-- If all sources are loaded, the converters follow on the merged tree, up to
  the first that fails. -/
  converted {cs : List Configuration} {between : W} {calls : List (Call W)} (sources : r.uris ≠ [])
    (gathers : Gathers r.provider? r.uris before cs between calls) :
    calls.map Call.source? = r.uris.map some ∧
    ∃ outcome after called, Converts r.converters (.mergeAll cs) between outcome after called ∧
      r.run before = (outcome, after, calls ++ called)
  nothing : ((r.run before).1 = some (.error .noSources) ∧ (r.run before).2.2 = []) ↔ r.uris = []
  /-- There is no other course than these, but that a provider never answers. -/
  course (outcome : Option (Except ResolveError Configuration)) (after : W)
    (calls : List (Call W)) : r.run before = (outcome, after, calls) ↔
      Course r before outcome after calls

theorem failsFast (r : Resolver (Work W)) (before : W) : FailsFast r before where
  unchanged := run_eq r before
  failed := by
    intro loaded rest uri cs between after e calls called order gathers fails
    refine ⟨by rw [List.map_append, gathers.sources, fails.sources], fun others => ?_⟩
    -- Which provider serves a scheme does not depend on the sources.
    exact (Course.failed (r := { r with uris := loaded ++ uri :: others }) rfl gathers fails).run
  converted := by
    intro cs between calls sources gathers
    obtain ⟨outcome, after, called, converts⟩ := exists_converts r.converters (.mergeAll cs) between
    exact ⟨gathers.sources, outcome, after, called, converts,
      (Course.converted sources gathers converts).run⟩
  nothing := nothing_iff
  course _ _ _ := run_eq_iff

/-- Whatever was registered in whatever order: resolving asks the provider that was
registered last for each scheme, for the sources in order up to the first that
fails, and then converts what was merged up to the first converter that fails. -/
theorem resolution_fails_fast (uris : List String) (regs : List (Registration W)) (before : W) :
    Registers uris regs (registered uris regs) ∧ FailsFast (registered uris regs) before :=
  ⟨registers uris regs, failsFast _ before⟩

/-- A provider that gives its documents one after the other, whatever it is asked
for, and counts the calls. -/
def inTurn (texts : List String) : Provider (Work Nat) where
  scheme := "mem"
  retrieve _ := .mk <| .mk fun n => (texts[n]?.map .ok, n + 1)

/-- A provider, a converter, and another provider in place of the first. -/
def inTurnTwice : List (Registration Nat) :=
  [.provider (inTurn []), .converter ⟨"same", pure⟩, .provider (inTurn ["'a': 1", "'x'"])]

theorem resolution_fails_fast_inTurnTwice :
    (∃ cs between calls, Gathers (registered ["mem:1", "mem:2", "mem:3"] inTurnTwice).provider?
        ["mem:1"] 0 cs between calls ∧
      ∃ e after called, Fails (registered ["mem:1", "mem:2", "mem:3"] inTurnTwice).provider?
        "mem:2" between e after called) ∧
    ∀ others, (registered ("mem:1" :: "mem:2" :: others) inTurnTwice).run 0 =
      (some (.error (.notAMapping "mem:2")), 2,
        [.retrieve (inTurn ["'a': 1", "'x'"]) "mem:1",
          .retrieve (inTurn ["'a': 1", "'x'"]) "mem:2"]) := by
  have served : (registered ["mem:1", "mem:2", "mem:3"] inTurnTwice).provider? "mem" =
      some (inTurn ["'a': 1", "'x'"]) := by
    simp [registered, inTurnTwice, register, withProvider, withConverter, provider?, inTurn]
  have first : SourceUri.scheme "mem:1" = "mem" := by cbv
  have second : SourceUri.scheme "mem:2" = "mem" := by cbv
  have mapping : Configuration.ofSource "mem:1" "'a': 1" = .ok ⟨[(.text "a", .int 1)]⟩ := by cbv
  have scalar : Configuration.ofYaml "'x'" = .error .notAMapping := by cbv
  have order : ["mem:1", "mem:2", "mem:3"] = ["mem:1"] ++ "mem:2" :: ["mem:3"] := rfl
  have gathers : Gathers (registered ["mem:1", "mem:2", "mem:3"] inTurnTwice).provider? ["mem:1"] 0
      [⟨[(.text "a", .int 1)]⟩] 1 [.retrieve (inTurn ["'a': 1", "'x'"]) "mem:1"] :=
    .cons (by rw [first, served]) rfl mapping .nil
  have fails : Fails (registered ["mem:1", "mem:2", "mem:3"] inTurnTwice).provider? "mem:2" 1
      (.notAMapping "mem:2") 2 [.retrieve (inTurn ["'a': 1", "'x'"]) "mem:2"] :=
    .notAMapping (by rw [second, served]) rfl scalar
  refine ⟨⟨_, _, _, gathers, _, _, _, fails⟩, ?_⟩
  exact ((resolution_fails_fast ["mem:1", "mem:2", "mem:3"] inTurnTwice 0).2.failed order gathers
    fails).2

end TelemetrySidecar.Resolver
