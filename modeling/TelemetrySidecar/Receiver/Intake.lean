import TelemetrySidecar.Receiver.Channel
import TelemetrySidecar.Telemetry.Event

/-
  Taking batches in

  Each request that brings a batch has a handler of its own, which reads the
  body, offers the batch to the channel and counts it. The steps of all handlers
  and those of the consumer may come in any order.
-/

namespace TelemetrySidecar

/-- Where a handler stands. -/
inductive Handler where
  | toRead (body : List UInt8)
  | toOffer (batch : Batch)
  | toCount
  | answered (status : Nat)

/-- The status a handler answered with, if it has. -/
def Handler.status? : Handler → Option Nat
  | answered status => some status
  | _ => none

structure Intake where
  channel : Channel Batch
  /-- The handlers so far, in the order of their requests. -/
  handlers : List Handler := []
  /-- How many batches were counted. -/
  counter : Nat := 0
  /-- The batches the channel took, in order. -/
  accepted : List Batch := []
  /-- The batches the consumer received, in order. -/
  received : List Batch := []

namespace Intake

/-- What happens to an intake. -/
inductive Event where
  | request (body : List UInt8)
  | handle (index : Nat)
  | receive
  | close

/-- One step of a handler. -/
def advance (t : Intake) (index : Nat) : Handler → Option Intake
  | .toRead body =>
    match Batch.ofOctets body with
    | .ok batch => some { t with handlers := t.handlers.set index (.toOffer batch) }
    | .error _ => some { t with handlers := t.handlers.set index (.answered 400) }
  | .toOffer batch =>
    match t.channel.offer batch with
    | .ok channel => some { t with
        channel, accepted := t.accepted ++ [batch], handlers := t.handlers.set index .toCount }
    | .error .full => some { t with handlers := t.handlers.set index (.answered 503) }
    | .error .closed => some { t with handlers := t.handlers.set index (.answered 500) }
  | .toCount => some { t with
      counter := t.counter + 1, handlers := t.handlers.set index (.answered 200) }
  | .answered _ => none

def step (t : Intake) : Event → Option Intake
  | .request body => some { t with handlers := t.handlers ++ [.toRead body] }
  | .handle index => (t.handlers[index]?).bind (t.advance index)
  | .receive => do
    let (batch, channel) ← t.channel.take?
    return { t with channel, received := t.received ++ [batch] }
  | .close => if t.channel.isOpen then some { t with channel := t.channel.close } else none

/-- Whether every request was answered. -/
def isIdle (t : Intake) : Bool := t.handlers.all fun h => h.status?.isSome

/-- The statuses of the requests that were answered. -/
def statuses (t : Intake) : List Nat := t.handlers.filterMap Handler.status?

/-- What the receiver says of its health. -/
def health (t : Intake) : Json.Value :=
  .object [("status", .text "ready"), ("batches_received", .ofNat t.counter)]

/-! ## Requests one after the other -/

/-- The most steps a handler takes. -/
def maxSteps : Nat := 3

/-- A handler's steps to its answer. -/
def finish (index : Nat) : Nat → Intake → Intake
  | 0, t => t
  | n + 1, t =>
    match t.step (.handle index) with
    | some t => finish index n t
    | none => t

/-- A request whose handler nobody disturbs. -/
def push (t : Intake) (body : List UInt8) : Intake :=
  let index := t.handlers.length
  finish index maxSteps { t with handlers := t.handlers ++ [.toRead body] }

/-- What the receiver answers to a request: a status and perhaps a value. -/
structure Reply where
  status : Nat
  value : Option Json.Value := none

/-- A request by its method and its path without the query. -/
def respond (t : Intake) (method path : String) (body : List UInt8) : Reply × Intake :=
  if path = "/" then
    if method = "POST" then
      let t := t.push body
      ({ status := (t.statuses.getLast?).getD 500 }, t)
    else ({ status := 405 }, t)
  else if path = "/health" then
    if method = "GET" then ({ status := 200, value := some t.health }, t)
    else if method = "HEAD" then ({ status := 200 }, t)
    else ({ status := 405 }, t)
  else ({ status := 404 }, t)

end Intake

end TelemetrySidecar
