import TelemetrySidecar.Service.State

/-
  Kinds of service

  A service is a machine that somebody else starts: it publishes a state, runs
  until its run ends, and can be asked to shut down. What happens in it is up to
  its kind.
-/

namespace TelemetrySidecar

/-- How the run of a service ended. -/
inductive RunEnd (ε : Type) where
  | returned
  | failed (error : ε)
  | panicked
  deriving DecidableEq, Repr

/-- A kind of service with states `σ`, in which events `ι` happen. A run that
has ended stays ended: nothing happens after it. -/
structure ServiceKind (σ ι ε : Type) where
  step : σ → ι → Option σ
  published : σ → ServiceState
  ended : σ → Option (RunEnd ε)
  shutDown : σ → σ
  step_ended : ∀ s i, (ended s).isSome → step s i = none
  ended_shutDown : ∀ s, ended (shutDown s) = ended s

/-! ## Services that may do anything -/

/-- A service of which no more is known than what it published last and how it
ended. -/
structure AnyService (ε : Type) where
  published : ServiceState := .starting
  ended : Option (RunEnd ε) := none
  deriving DecidableEq, Repr

namespace AnyService

/-- It publishes a state, or its run ends. -/
inductive Event (ε : Type) where
  | publish (state : ServiceState)
  | finish (how : RunEnd ε)
  deriving DecidableEq, Repr

def step {ε : Type} (s : AnyService ε) (event : Event ε) : Option (AnyService ε) :=
  match s.ended, event with
  | some _, _ => none
  | none, .publish state => some { s with published := state }
  | none, .finish how => some { s with ended := some how }

/-- Any state may be published at any time until the run ends in any way. A
request to shut down is heard or not. -/
def kind (ε : Type) : ServiceKind (AnyService ε) (Event ε) ε where
  step := step
  published := AnyService.published
  ended := AnyService.ended
  shutDown := id
  step_ended := by
    intro s i h
    cases he : s.ended with
    | none => simp [he] at h
    | some e => simp [step, he]
  ended_shutDown := fun _ => rfl

end AnyService

end TelemetrySidecar
