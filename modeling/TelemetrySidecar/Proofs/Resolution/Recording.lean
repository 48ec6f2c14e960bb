import TelemetrySidecar.Resolution.Resolver

/-
  Recording who is called

  What providers and converters do depends on the world and changes it (`Work`).
  To see which of them a resolution calls, and in which order, the same
  resolution is run with each of them noting its calls before it does its work
  (`Resolver.noting`, `Resolver.run`).

  What is proved: the notes change nothing. What is resolved and the world that
  is left are those of the resolution without notes (`Resolver.run_eq`).
-/

namespace TelemetrySidecar

/-- What is done in a world: it goes on with a value, or with none it waits
forever. -/
abbrev Work (W α : Type) := OptionT (StateM W) α

variable {W α β : Type}

namespace Resolving

/-- What comes of a resolution in a world, unless it waits forever, and the world
after it. -/
def upon (x : Resolving (Work W) α) (w : W) : Option (Except ResolveError α) × W :=
  x.run.run.run w

theorem upon_pure (a : α) (w : W) : upon (pure a) w = (some (.ok a), w) := rfl

theorem upon_throw (e : ResolveError) (w : W) :
    upon (throw e : Resolving (Work W) α) w = (some (.error e), w) := rfl

theorem upon_bind (x : Resolving (Work W) α) (f : α → Resolving (Work W) β) (w : W) :
    (x >>= f).upon w = match x.upon w with
      | (some (.ok a), between) => (f a).upon between
      | (some (.error e), between) => (some (.error e), between)
      | (none, between) => (none, between) := by
  simp only [upon, ExceptT.run_bind, OptionT.run_bind, StateT.run_bind, Option.elimM]
  rcases x.run.run.run w with ⟨_ | (_ | _), _⟩ <;> simp <;> rfl

end Resolving

/-! ## Notes -/

namespace Resolver

/-- A call of a provider for an address, or of a converter with a configuration. -/
inductive Call (W : Type) where
  | retrieve (provider : Provider (Work W)) (uri : String)
  | convert (converter : Converter (Work W)) (c : Configuration)

/-- The address a provider was called for. -/
def Call.source? : Call W → Option String
  | .retrieve _ uri => some uri
  | .convert _ _ => none

/-- A world together with the calls that were made in it, the first one first. -/
abbrev Recorded (W : Type) := W × List (Call W)

/-- The same work after a note. -/
def noting (call : Call W) (x : Resolving (Work W) α) : Resolving (Work (Recorded W)) α :=
  .mk <| .mk fun (w, calls) =>
    let (outcome, after) := x.upon w
    (outcome, after, calls ++ [call])

def noteProvider (p : Provider (Work W)) : Provider (Work (Recorded W)) where
  scheme := p.scheme
  retrieve uri := noting (.retrieve p uri) (p.retrieve uri)

def noteConverter (k : Converter (Work W)) : Converter (Work (Recorded W)) where
  name := k.name
  convert c := noting (.convert k c) (k.convert c)

/-- The resolver with everybody noting who is called. -/
def noted (r : Resolver (Work W)) : Resolver (Work (Recorded W)) where
  uris := r.uris
  providers := r.providers.map noteProvider
  converters := r.converters.map noteConverter

/-- What comes of a resolution in a world, with the world after it and the calls
that were made. -/
def run (r : Resolver (Work W)) (w : W) :
    Option (Except ResolveError Configuration) × Recorded W :=
  r.noted.resolve.upon (w, [])

theorem upon_noting (call : Call W) (x : Resolving (Work W) α) (w : W) (calls : List (Call W)) :
    (noting call x).upon (w, calls) = ((x.upon w).1, (x.upon w).2, calls ++ [call]) := rfl

@[simp] theorem provider?_noted (r : Resolver (Work W)) (scheme : String) :
    r.noted.provider? scheme = (r.provider? scheme).map noteProvider := by
  rw [provider?, noted, List.find?_map]
  rfl

/-! ## Notes change nothing -/

/-- The second work does what the first does, and only adds calls to those noted. -/
def Echoes (x : Resolving (Work W) α) (y : Resolving (Work (Recorded W)) α) : Prop :=
  ∀ w calls, ∃ more, y.upon (w, calls) = ((x.upon w).1, (x.upon w).2, calls ++ more)

namespace Echoes

theorem pure' (a : α) : Echoes (pure a : Resolving (Work W) α) (pure a) :=
  fun w calls => ⟨[], by simp [Resolving.upon_pure]⟩

theorem throw' (e : ResolveError) : Echoes (throw e : Resolving (Work W) α) (throw e) :=
  fun w calls => ⟨[], by simp [Resolving.upon_throw]⟩

theorem noting (call : Call W) (x : Resolving (Work W) α) : Echoes x (noting call x) :=
  fun w calls => ⟨[call], upon_noting call x w calls⟩

theorem bind' {x : Resolving (Work W) α} {y : Resolving (Work (Recorded W)) α}
    {f : α → Resolving (Work W) β} {g : α → Resolving (Work (Recorded W)) β} (hx : Echoes x y)
    (hf : ∀ a, Echoes (f a) (g a)) : Echoes (x >>= f) (y >>= g) := by
  intro w calls
  obtain ⟨first, hfirst⟩ := hx w calls
  rw [Resolving.upon_bind, Resolving.upon_bind, hfirst]
  rcases x.upon w with ⟨_ | e | a, between⟩
  · exact ⟨first, rfl⟩
  · exact ⟨first, rfl⟩
  · obtain ⟨second, hsecond⟩ := hf a between (calls ++ first)
    exact ⟨first ++ second, by rw [← List.append_assoc]; exact hsecond⟩

theorem load (r : Resolver (Work W)) (uri : String) : Echoes (r.load uri) (r.noted.load uri) := by
  simp only [Resolver.load, provider?_noted]
  cases r.provider? (SourceUri.scheme uri) with
  | none => exact throw' _
  | some p =>
    refine bind' (noting (.retrieve p uri) (p.retrieve uri)) fun text => ?_
    cases Configuration.ofSource uri text with
    | ok c => exact pure' c
    | error e => exact throw' e

theorem loadAll (r : Resolver (Work W)) : ∀ (uris : List String) (c : Configuration),
    Echoes (r.loadAll c uris) (r.noted.loadAll c uris)
  | [], c => pure' c
  | uri :: uris, c => bind' (load r uri) fun d => loadAll r uris (c.merge d)

theorem convertAll : ∀ (ks : List (Converter (Work W))) (c : Configuration),
    Echoes (Resolver.convertAll c ks) (Resolver.convertAll c (ks.map noteConverter))
  | [], c => pure' c
  | k :: ks, c => bind' (noting (.convert k c) (k.convert c)) fun d => convertAll ks d

theorem resolve (r : Resolver (Work W)) : Echoes r.resolve r.noted.resolve := by
  unfold Resolver.resolve
  have same : r.noted.uris = r.uris := rfl
  rw [same]
  split
  · exact throw' _
  · exact bind' (loadAll r r.uris .empty) fun c => convertAll r.converters c

end Echoes

/-- What is resolved, and the world after it, are the same without the notes. -/
theorem run_eq (r : Resolver (Work W)) (w : W) :
    (r.run w).1 = (r.resolve.upon w).1 ∧ (r.run w).2.1 = (r.resolve.upon w).2 := by
  obtain ⟨calls, h⟩ := Echoes.resolve r w []
  rw [run, h]
  exact ⟨rfl, rfl⟩

end Resolver

end TelemetrySidecar
