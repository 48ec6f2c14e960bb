import TelemetrySidecar.Address
import TelemetrySidecar.Receiver.Settings
import TelemetrySidecar.Service.Kind

/-
  The receiver as a service

  The run of a receiver takes its port, says that it is ready and serves until it
  is asked to shut down. A request to shut down may come between any two of its
  steps; the run looks for one at its beginning and while it serves.
-/

namespace TelemetrySidecar

/-- Why a port cannot be taken. -/
inductive BindFault where
  | inUse
  | denied
  | unavailable
  deriving DecidableEq, Repr

/-- Where a listener listens. -/
structure ListenAddress where
  ip : String
  port : Nat
  deriving DecidableEq, Repr

def ListenAddress.text (a : ListenAddress) : String := a.ip ++ ":" ++ toString a.port

/-- Why a receiver does not serve. -/
inductive ReceiverError where
  | badSettings
  | notBound (address : ListenAddress) (fault : BindFault)
  | notServing
  deriving DecidableEq, Repr

def ReceiverError.message : ReceiverError → String
  | badSettings => "invalid receiver configuration"
  | notBound address _ => "failed to bind telemetry receiver on " ++ address.text
  | notServing => "telemetry receiver failed"

/-- The next step of a receiver's run. -/
inductive ReceiverPhase where
  | toCheck
  | toBind
  | toRecord (port : Nat)
  | toAnnounce
  | serving
  | toReturn (how : RunEnd ReceiverError)
  | returned (how : RunEnd ReceiverError)
  deriving DecidableEq, Repr

structure Receiver where
  settings : ReceiverSettings := {}
  /-- Whether all interfaces are listened on, or only the local one. -/
  hosted : Bool := false
  published : ServiceState := .starting
  /-- Whether a shutdown was asked for. -/
  cancelled : Bool := false
  /-- The port that was taken, once it is recorded. -/
  port : Option Nat := none
  phase : ReceiverPhase := .toCheck
  deriving DecidableEq, Repr

namespace Receiver

/-- A receiver as a configuration describes it. -/
def ofConfiguration (hosted : Bool) (c : Configuration) : Except ReceiverError Receiver :=
  match ReceiverSettings.ofConfiguration c with
  | some settings => .ok { settings, hosted }
  | none => .error .badSettings

/-- The interface that is listened on. -/
def ip (r : Receiver) : String := if r.hosted then "0.0.0.0" else "127.0.0.1"

/-- The address that is asked for. -/
def wanted (r : Receiver) : ListenAddress := ⟨r.ip, r.settings.port⟩

/-- Where the receiver can be reached, once its port is recorded. -/
def uri? (env : Environment) (r : Receiver) : Option String := r.port.map (Address.listener env)

/-- A step of the run, with what the system makes of it. A port that was taken can always be
recorded. -/
inductive Event where
  | check
  | bind (outcome : Except BindFault Nat)
  | record
  | announce
  | close
  | fail
  | finish

/-- Publishes a last state, before the run returns. -/
def leave (r : Receiver) (published : ServiceState) (how : RunEnd ReceiverError) : Receiver :=
  { r with published, phase := .toReturn how }

/-- One step of the run. -/
def step (r : Receiver) (event : Event) : Option Receiver :=
  match r.phase, event with
  | .toCheck, .check =>
    some (if r.cancelled then r.leave .closed .returned else { r with phase := .toBind })
  | .toBind, .bind (.ok port) => some { r with phase := .toRecord port }
  | .toBind, .bind (.error fault) =>
    some (r.leave .failed (.failed (.notBound r.wanted fault)))
  | .toRecord port, .record =>
    some { r with port := some (r.port.getD port), phase := .toAnnounce }
  | .toAnnounce, .announce => some { r with published := .running, phase := .serving }
  | .serving, .close => if r.cancelled then some (r.leave .closed .returned) else none
  | .serving, .fail => some (r.leave .failed (.failed .notServing))
  | .toReturn how, .finish => some { r with phase := .returned how }
  | _, _ => none

/-- How the run ended, if it has. -/
def ended (r : Receiver) : Option (RunEnd ReceiverError) :=
  match r.phase with
  | .returned how => some how
  | _ => none

/-- A request to shut down: a receiver that is ready is closing from now on. -/
def shutDown (r : Receiver) : Receiver :=
  { r with published := if r.published = .running then .closing else r.published,
           cancelled := true }

/-- Whether requests are taken. -/
def isServing (r : Receiver) : Bool := r.phase = .serving

/-- The receiver at the beginning of another run. -/
def again (r : Receiver) : Receiver := { r with phase := .toCheck }

theorem step_ended (r : Receiver) (event : Event) (h : r.ended.isSome) : r.step event = none := by
  unfold ended at h
  split at h
  · rename_i how hp
    simp [step, hp]
  · simp at h

def kind : ServiceKind Receiver Event ReceiverError where
  step := step
  published := Receiver.published
  ended := ended
  shutDown := shutDown
  step_ended := step_ended
  ended_shutDown := fun _ => rfl

/-! ## A run that nothing disturbs -/

/-- What the system makes of a request for a port. -/
abbrev Ports := Nat → Except BindFault Nat

/-- The next step, if the run does not wait for a request to shut down. -/
def next? (ports : Ports) (r : Receiver) : Option Event :=
  match r.phase with
  | .toCheck => some .check
  | .toBind => some (.bind (ports r.settings.port))
  | .toRecord _ => some .record
  | .toAnnounce => some .announce
  | .serving => if r.cancelled then some .close else none
  | .toReturn _ => some .finish
  | .returned _ => none

/-- The most steps a run takes. -/
def maxSteps : Nat := 6

/-- Goes on until the run waits or has ended. -/
def goOn (ports : Ports) : Nat → Receiver → Receiver
  | 0, r => r
  | n + 1, r =>
    match (r.next? ports).bind r.step with
    | some r => goOn ports n r
    | none => r

/-- Runs until the run waits or has ended. -/
def run (ports : Ports) (r : Receiver) : Receiver := goOn ports maxSteps r

end Receiver

end TelemetrySidecar
