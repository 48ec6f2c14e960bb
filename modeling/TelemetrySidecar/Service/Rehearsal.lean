import TelemetrySidecar.Service.Coordinator

/-
  Rehearsals

  A coordinator over a service that follows a script, in a time that passes only
  while somebody waits. A rehearsal is one order of the coordinator's steps: the
  service goes on to its next point of waiting without interruption, then the
  call in progress looks, and then time goes on to whatever comes first.
-/

namespace TelemetrySidecar

/-- What a scripted service does next. After the last deed its run returns. -/
inductive Deed where
  | publish (state : ServiceState)
  | sleep (millis : Nat)
  | awaitShutdown
  | hang
  | fail (message : String)
  | panic
  deriving DecidableEq, Repr

/-- What ends a time of waiting that no answer ends. -/
inductive Alarm where
  | deadline
  | giveUp
  | enough
  deriving DecidableEq, Repr

structure Rehearsal where
  coordinator : Coordinator (AnyService String) := {}
  /-- Why the factory builds nothing, if it does not. -/
  fault : Option String := none
  /-- What the service has still to do. -/
  deeds : List Deed := []
  now : Nat := 0
  /-- When the service came to the first of its deeds. -/
  since : Nat := 0
  begun : Bool := false

namespace Rehearsal

/-- How a command to the coordinator or to the clock turned out. -/
inductive Reply where
  | answered (answer : Coordinator.Answer String)
  | shown (line : String)
  | waited
  | gaveUp
  | gone
  | stuck

inductive Command where
  | start (withinMs : Option Nat)
  | stop (withinMs : Option Nat)
  | wait (millis : Nat)
  | show
  | drop

abbrev kind : ServiceKind (AnyService String) (AnyService.Event String) String :=
  AnyService.kind String

/-- One step of the coordinator, and the answer to its call. -/
def take (r : Rehearsal) (label : Coordinator.Label (AnyService String) (AnyService.Event String) String) :
    Rehearsal × Option Reply :=
  match r.coordinator.step kind label with
  | some (coordinator, answer) => ({ r with coordinator }, answer.map .answered)
  | none => (r, none)

/-- Something happens in the service. -/
def happen (r : Rehearsal) (event : AnyService.Event String) : Rehearsal :=
  (r.take (.service event)).1

/-- An alarm rings at its time; without one nothing ever happens again. -/
def ring (r : Rehearsal) : Option (Nat × Alarm) → Rehearsal × Reply
  | none => (r, .stuck)
  | some (time, alarm) =>
    let r := { r with now := max r.now time }
    match alarm with
    | .enough => (r, .waited)
    | .giveUp => ((r.take .giveUp).1, .gaveUp)
    | .deadline =>
      let (r, reply) := r.take .expire
      (r, reply.getD .stuck)

/-- Everybody waits: the call in progress looks, and if that does not end it,
what comes next comes. -/
def pause (alarm : Option (Nat × Alarm)) (r : Rehearsal) (next : Rehearsal → Rehearsal × Reply) :
    Rehearsal × Reply :=
  let (r, reply) := r.take .look
  match reply with
  | some reply => (r, reply)
  | none => match alarm with
    | some (time, _) => if time ≤ r.now then r.ring alarm else next r
    | none => next r

/-- Whether an alarm comes before a time. -/
def comesBefore (alarm : Option (Nat × Alarm)) (time : Nat) : Bool :=
  match alarm with
  | some (t, _) => t < time
  | none => false

/-- The service follows its script until the wait of its owner ends. -/
def play (alarm : Option (Nat × Alarm)) : List Deed → Rehearsal → Rehearsal × Reply
  | [], r => pause alarm ({ r with deeds := [] }.happen (.finish .returned)) (·.ring alarm)
  | .fail message :: _, r =>
    pause alarm ({ r with deeds := [] }.happen (.finish (.failed message))) (·.ring alarm)
  | .panic :: _, r => pause alarm ({ r with deeds := [] }.happen (.finish .panicked)) (·.ring alarm)
  | .publish state :: rest, r => play alarm rest { r.happen (.publish state) with since := r.now }
  | .hang :: rest, r => pause alarm { r with deeds := .hang :: rest } (·.ring alarm)
  | .awaitShutdown :: rest, r =>
    if r.coordinator.shutdowns = 0 then
      pause alarm { r with deeds := .awaitShutdown :: rest } (·.ring alarm)
    else play alarm rest { r with since := r.now }
  | .sleep millis :: rest, r =>
    let due := r.since + millis
    if due ≤ r.now then play alarm rest { r with since := r.now }
    else
      pause alarm { r with deeds := .sleep millis :: rest } fun r =>
        if comesBefore alarm due then r.ring alarm
        else play alarm rest { r with now := due, since := due }

/-- Time for the service, if its run goes on, until the owner's wait ends. -/
def await (alarm : Option (Nat × Alarm)) (r : Rehearsal) : Rehearsal × Reply :=
  pause alarm r fun r =>
    match r.coordinator.service with
    | none => r.ring alarm
    | some s =>
      if s.ended.isSome then r.ring alarm
      else
        let r := if r.begun then r else { r with begun := true, since := r.now }
        play alarm r.deeds r

/-- The earlier one of two alarms. -/
def earlier (a b : Option (Nat × Alarm)) : Option (Nat × Alarm) :=
  match a, b with
  | some (t, x), some (u, y) => if t ≤ u then some (t, x) else some (u, y)
  | a, none => a
  | none, b => b

/-- The alarm that ends a call its owner does not want to wait for any longer. -/
def patience (r : Rehearsal) (withinMs : Option Nat) : Option (Nat × Alarm) :=
  withinMs.map fun ms => (r.now + ms, .giveUp)

/-- A command, and how it turned out. After the coordinator's end only time
passes. -/
def perform (r : Rehearsal) (command : Command) : Rehearsal × Reply :=
  match command, r.coordinator.dropped with
  | .wait ms, _ => r.await (some (r.now + ms, .enough))
  | .drop, false => ((r.take .drop).1, .waited)
  | .drop, true => (r, .waited)
  | _, true => (r, .gone)
  | .show, false => (r, .shown (r.coordinator.line kind))
  | .start withinMs, false =>
    let built := match r.fault with
      | some fault => .error fault
      | none => .ok {}
    let (r, reply) := r.take (.start built)
    match reply with
    | some reply => (r, reply)
    | none =>
      let deadline := some (r.now + r.coordinator.timeoutMs, Alarm.deadline)
      r.await (earlier deadline (r.patience withinMs))
  | .stop withinMs, false =>
    let (r, reply) := r.take .stop
    match reply with
    | some reply => (r, reply)
    | none => r.await (r.patience withinMs)

/-- How many runs of the service have begun. -/
def runs (r : Rehearsal) : Nat := if r.begun then 1 else 0

/-- How many runs returned, with an error or without one. -/
def returns (r : Rehearsal) : Nat :=
  match r.coordinator.ended kind with
  | some .returned | some (.failed _) => 1
  | some .panicked | none => 0

/-- What the service published last, as its coordinator can see it. -/
def published (r : Rehearsal) : Option ServiceState :=
  if r.coordinator.dropped then none else r.coordinator.service.map (·.published)

/-- The state the coordinator shows. -/
def lifecycle (r : Rehearsal) : Option LifecycleState :=
  if r.coordinator.dropped then none else some (r.coordinator.shown kind)

end Rehearsal

end TelemetrySidecar
