import TelemetrySidecar.Extension.Run.Basic
import TelemetrySidecar.Service.Course

/-
  The course of a run

  A run that nothing disturbs has one course: requests are handled and batches
  consumed at once, the receiver goes on until it waits, and only then does the
  run itself. Batches are brought while the subscription is being made, and when
  a poll is not answered, the run may be ended from outside.
-/

namespace TelemetrySidecar.ExtensionRun

/-- What others do to a run: the ports the system gives, the bodies brought to
the receiver, and whether somebody ends a run that waits for an event. -/
structure Outside where
  ports : Receiver.Ports
  pushes : List (List UInt8) := []
  ends : Bool := false

/-- The handler that has its next step to do. -/
def busyHandler? (r : ExtensionRun) : Option Nat :=
  r.intake.handlers.findIdx? fun h => h.status?.isNone

/-- A step of the coordinator's call as a step of the run. -/
def ofCall : Coordinator.Label Receiver Receiver.Event ReceiverError → Label
  | .service event => .receiver event
  | .expire => .expire
  | _ => .look

/-- What happens next. -/
def next? (out : Outside) (r : ExtensionRun) : Option Label :=
  if let some index := r.busyHandler? then some (.intake (.handle index))
  else if !r.intake.channel.queue.isEmpty && !r.consumed then some (.intake .receive)
  else match r.stage with
    | .starting | .stopping _ => (r.coordinator.next? (Receiver.next? out.ports)).map ofCall
    | .toSubscribe =>
      match out.pushes[r.intake.handlers.length]? with
      | some body => if r.isServing then some (.intake (.request body)) else some .go
      | none => some .go
    | .toPoll => if r.cancelled then some .leave else some .go
    | .polled none =>
      if r.cancelled then some .leave else if out.ends then some .cancel else none
    | .toJoin _ => if r.consumed then some .go else some .consumed
    | .finished _ | .stuck => none
    | _ => some .go

/-- A run for at most the number of steps given. -/
def course (around : Resolver.Surroundings) (out : Outside) : Nat → ExtensionRun → ExtensionRun
  | 0, r => r
  | n + 1, r =>
    match (r.next? out).bind (r.step around) with
    | some r => course around out n r
    | none => r

end TelemetrySidecar.ExtensionRun
