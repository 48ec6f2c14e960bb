import TelemetrySidecar.Resolution.Converter
import TelemetrySidecar.Text.Quoted

/-
  Resolving a configuration

  The documents of all sources are retrieved and merged in order, and the
  converters change the result. The first failure ends it.
-/

namespace TelemetrySidecar

/-- Sources in order, and who serves them. A scheme has at most one provider. -/
structure Resolver (m : Type → Type) where
  uris : List String
  providers : List (Provider m) := []
  converters : List (Converter m) := []

namespace Resolver

variable {m : Type → Type}

/-- Registers a provider in place of any other for its scheme. -/
def withProvider (r : Resolver m) (p : Provider m) : Resolver m :=
  { r with providers := p :: r.providers.filter fun q => q.scheme != p.scheme }

/-- Adds a converter after those there are. -/
def withConverter (r : Resolver m) (c : Converter m) : Resolver m :=
  { r with converters := r.converters ++ [c] }

/-- The provider for a scheme. -/
def provider? (r : Resolver m) (scheme : String) : Option (Provider m) :=
  r.providers.find? fun p => p.scheme == scheme

/-- The schemes that are served, sorted. -/
def schemes (r : Resolver m) : List String :=
  (r.providers.map (·.scheme)).mergeSort fun a b => decide (a ≤ b)

/-- The resolver in one line. -/
def describe (r : Resolver m) : String :=
  "ConfigResolver \x7b uris: " ++ Text.quotedList r.uris ++ ", schemes: "
    ++ Text.quotedList r.schemes ++ ", converters: "
    ++ Text.quotedList (r.converters.map (·.name)) ++ " \x7d"

variable [Monad m]

/-- The configuration of one source. -/
def load (r : Resolver m) (uri : String) : Resolving m Configuration := do
  let scheme := SourceUri.scheme uri
  match r.provider? scheme with
  | none => throw (.unsupportedScheme uri scheme)
  | some provider =>
    let text ← provider.retrieve uri
    match Configuration.ofSource uri text with
    | .ok c => pure c
    | .error e => throw e

/-- The configurations of sources, merged in order over one. -/
def loadAll (r : Resolver m) : Configuration → List String → Resolving m Configuration
  | c, [] => pure c
  | c, uri :: rest => do
    let d ← r.load uri
    loadAll r (c.merge d) rest

/-- The configuration after converters in order. -/
def convertAll : Configuration → List (Converter m) → Resolving m Configuration
  | c, [] => pure c
  | c, converter :: rest => do
    let c ← converter.convert c
    convertAll c rest

/-- The configuration of all sources, converted. -/
def resolve (r : Resolver m) : Resolving m Configuration :=
  if r.uris.isEmpty then throw .noSources
  else do
    let c ← r.loadAll .empty r.uris
    convertAll c r.converters

/-- The surroundings sources are retrieved from. -/
structure Surroundings where
  env : Environment
  files : Files
  host : Host

/-- A resolver with all providers and converters there are. -/
def standard (around : Surroundings) (uris : List String) : Resolver Talk :=
  { uris
    providers := [.file around.files, .environment around.env, .inlineText,
      .web around.host "http", .web around.host "https", .objects around.host around.env]
    converters := [.expansion around.env, .quietExporters] }

end Resolver

end TelemetrySidecar
