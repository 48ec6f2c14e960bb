import TelemetrySidecar.Extension.Run.Error
import TelemetrySidecar.Receiver.Intake
import TelemetrySidecar.Resolution.Resolver
import TelemetrySidecar.Settings.Basic

/-
  A run of the extension

  A run registers, resolves the configuration, starts the receiver, subscribes it
  to telemetry and asks for events until one of them, or somebody outside, ends
  it. From the start of the receiver on, whatever happens leads through the same
  end: the receiver is stopped, everything that could still send a batch is
  given up, and the consumer of the batches finishes.

  A run is a machine. Besides its own steps there are those of the receiver, of
  the requests that bring batches and of the consumer, and what happens outside:
  they may come in any order.
-/

namespace TelemetrySidecar

/-- What stages of a run came to. -/
abbrev RunResult := Except RunError Unit

/-- What a run asks of others, in the order it does. -/
inductive Operation where
  | register (name : String)
  | retrieve (uris : List String)
  | start
  | subscribe (identifier uri : String)
  | poll (identifier : Option String)
  | stop
  deriving DecidableEq, Repr

/-- What a run is to do next, or waits for. -/
inductive Stage where
  | toRegister
  | toResolve
  | toStart (configuration : Configuration)
  | starting
  | toSubscribe
  | toPoll
  /-- A poll was answered, or will not be. -/
  | polled (answer : Option (Except ExtensionError LifecycleEvent))
  | toStop (outcome : RunResult)
  | stopping (outcome : RunResult)
  | toDrop (result : RunResult)
  | toJoin (result : RunResult)
  | finished (result : RunResult)
  /-- A request will never be answered. -/
  | stuck

/-- How many batches are held between the receiver and the consumer. -/
def batchCapacity : Nat := 64

structure ExtensionRun where
  settings : Settings
  stage : Stage
  log : Log := []
  operations : List Operation := []
  client : ExtensionClient
  registration : Registration := {}
  coordinator : Coordinator Receiver
  intake : Intake := { channel := { capacity := batchCapacity } }
  /-- Whether somebody outside wants the run to end. -/
  cancelled : Bool := false
  /-- Whether the consumer has finished. -/
  consumed : Bool := false

namespace ExtensionRun

/-- A run at its beginning. Without an address to talk to, it is over. -/
def ofSettings (settings : Settings) : ExtensionRun :=
  { settings
    stage := if settings.runtimeUrl.isSome then .toRegister else .finished (.error .noRuntimeApi)
    client := { runtimeUrl := settings.runtimeUrl.getD "" }
    coordinator := { timeoutMs := settings.collector.startupTimeoutMs } }

/-- What can happen in a run. -/
inductive Label where
  /-- The run's own next step. -/
  | go
  /-- The waiting call of the coordinator looks at the receiver. -/
  | look
  /-- The time for the start is over. -/
  | expire
  | receiver (event : Receiver.Event)
  | intake (event : Intake.Event)
  /-- The consumer finds that nobody can send any more. -/
  | consumed
  /-- Somebody wants the run to end. -/
  | cancel
  /-- The run notices that. -/
  | leave
  /-- The run cannot learn of signals. -/
  | unsignalled

/-- The result of a run whose stages came to `outcome` and whose stop answered
`answer`: the earlier failure counts. -/
def resultOf (outcome : RunResult) (answer : Coordinator.Answer ReceiverError) : RunResult :=
  match outcome with
  | .error e => .error e
  | .ok () => answer.mapError .notStopped

/-- The client of the telemetry interface. -/
def subscriptionClient (r : ExtensionRun) : SubscriptionClient :=
  { runtimeUrl := r.client.runtimeUrl, types := r.settings.telemetry.types }

/-- Writes an operation down. -/
def note (r : ExtensionRun) (operation : Operation) : ExtensionRun :=
  { r with operations := r.operations ++ [operation] }

/-- Where telemetry is to be sent. -/
def listener? (around : Resolver.Surroundings) (r : ExtensionRun) : Option String :=
  r.coordinator.service.bind (Receiver.uri? around.env)

/-! ## The run's own steps -/

def register (around : Resolver.Surroundings) (r : ExtensionRun) : ExtensionRun :=
  let name := r.settings.extension.name
  let (out, log) := (r.client.register around.host name).run.run r.log
  let r := { r.note (.register name) with log }
  match out with
  | none => { r with stage := .stuck }
  | some (.error e, client) => { r with client, stage := .finished (.error (.notRegistered e)) }
  | some (.ok registration, client) => { r with client, registration, stage := .toResolve }

def resolve (around : Resolver.Surroundings) (r : ExtensionRun) : ExtensionRun :=
  let uris := r.settings.collector.configUris
  let (out, log) := (Resolver.standard around uris).resolve.run.run.run r.log
  let r := { r.note (.retrieve uris) with log }
  match out with
  | none => { r with stage := .stuck }
  | some (.error e) => { r with stage := .finished (.error (.notResolved e)) }
  | some (.ok configuration) => { r with stage := .toStart configuration }

/-- Goes on after the answer to the start. -/
def afterStart (r : ExtensionRun) : Coordinator.Answer ReceiverError → ExtensionRun
  | .error e => { r with stage := .toStop (.error (.notStarted e)) }
  | .ok () => { r with stage := if r.settings.telemetry.enabled then .toSubscribe else .toPoll }

def start (around : Resolver.Surroundings) (configuration : Configuration) (r : ExtensionRun) :
    ExtensionRun :=
  let built := Receiver.ofConfiguration (Address.isHosted around.env) configuration
  let (coordinator, answer) := r.coordinator.start built
  let r := { r.note .start with coordinator }
  match answer with
  | some answer => r.afterStart answer
  | none => { r with stage := .starting }

/-- What a subscription that failed means to the run. -/
def subscriptionFailed (required : Bool) (e : SubscriptionError) : Option RunError :=
  match e with
  | .notSupported _ => none
  | e => if required then some (.notSubscribed e) else none

def subscribe (around : Resolver.Surroundings) (r : ExtensionRun) : ExtensionRun :=
  match r.listener? around with
  | none => { r with stage := .toStop (.error .noListener) }
  | some uri =>
    let identifier := r.registration.extensionId
    let (out, log) := (r.subscriptionClient.subscribe around.host identifier uri).run.run r.log
    let r := { r.note (.subscribe identifier uri) with log }
    match out with
    | none => { r with stage := .stuck }
    | some (.ok _) => { r with stage := .toPoll }
    | some (.error e) =>
      match subscriptionFailed r.settings.telemetry.required e with
      | some e => { r with stage := .toStop (.error e) }
      | none => { r with stage := .toPoll }

def poll (around : Resolver.Surroundings) (r : ExtensionRun) : ExtensionRun :=
  let (answer, log) := (r.client.nextEvent around.host).run.run r.log
  { r.note (.poll r.client.identifier) with log, stage := .polled answer }

/-- Goes on after the answer to a poll. -/
def afterPoll (r : ExtensionRun) : Except ExtensionError LifecycleEvent → ExtensionRun
  | .ok (.invoke ..) => { r with stage := .toPoll }
  | .ok (.shutdown ..) => { r with stage := .toStop (.ok ()) }
  | .error e => { r with stage := .toStop (.error (.noEvent e)) }

def stop (outcome : RunResult) (r : ExtensionRun) : ExtensionRun :=
  let (coordinator, answer) := r.coordinator.stop Receiver.kind
  let r := { r.note .stop with coordinator }
  match answer with
  | some answer => { r with stage := .toDrop (resultOf outcome answer) }
  | none => { r with stage := .stopping outcome }

/-- The run's own next step, if it does not wait. -/
def go (around : Resolver.Surroundings) (r : ExtensionRun) : Option ExtensionRun :=
  match r.stage with
  | .toRegister => some (r.register around)
  | .toResolve => some (r.resolve around)
  | .toStart configuration => some (r.start around configuration)
  | .toSubscribe => some (r.subscribe around)
  | .toPoll => some (r.poll around)
  | .polled (some answer) => some (r.afterPoll answer)
  | .toStop outcome => some (r.stop outcome)
  | .toDrop result =>
    some { r with coordinator := r.coordinator.drop Receiver.kind, stage := .toJoin result }
  | .toJoin result => if r.consumed then some { r with stage := .finished result } else none
  | .starting | .stopping _ | .polled none | .finished _ | .stuck => none

/-! ## All steps -/

/-- A step of the coordinator's waiting call. -/
def await (r : ExtensionRun) (label : Coordinator.Label Receiver Receiver.Event ReceiverError) :
    Option ExtensionRun := do
  let (coordinator, answer) ← r.coordinator.step Receiver.kind label
  let r := { r with coordinator }
  match answer, r.stage with
  | none, _ => some r
  | some answer, .starting => some (r.afterStart answer)
  | some answer, .stopping outcome => some { r with stage := .toDrop (resultOf outcome answer) }
  | some _, _ => none

/-- Whether the receiver takes requests. -/
def isServing (r : ExtensionRun) : Bool := r.coordinator.service.any Receiver.isServing

/-- Whether anything is left that could send a batch: the factory, which the
coordinator holds, the receiver's run, or a request. -/
def hasSender (r : ExtensionRun) : Bool :=
  !r.coordinator.dropped
    || (r.coordinator.service.isSome && (r.coordinator.ended Receiver.kind).isNone)
    || !r.intake.isIdle

/-- Whether a step of the receiver is possible now. It does not close before all
requests are answered. -/
def allows (r : ExtensionRun) : Receiver.Event → Bool
  | .close => r.intake.isIdle
  | _ => true

/-- Whether something can happen to the intake now. Requests come while the
receiver serves, and the consumer does not give up. -/
def admits (r : ExtensionRun) : Intake.Event → Bool
  | .request _ => r.isServing
  | .handle _ => true
  | .receive => !r.consumed
  | .close => false

/-- Whether the run asks for events. -/
def isPolling (r : ExtensionRun) : Bool :=
  match r.stage with
  | .toPoll | .polled _ => true
  | _ => false

def step (around : Resolver.Surroundings) (r : ExtensionRun) : Label → Option ExtensionRun
  | .go => r.go around
  | .look => r.await .look
  | .expire => r.await .expire
  | .receiver event =>
    if r.allows event then
      (r.coordinator.step Receiver.kind (.service event)).map fun p => { r with coordinator := p.1 }
    else none
  | .intake event =>
    if r.admits event then (r.intake.step event).map fun intake => { r with intake } else none
  | .consumed =>
    if r.hasSender || !r.intake.channel.queue.isEmpty then none else some { r with consumed := true }
  | .cancel => some { r with cancelled := true }
  | .leave => if r.isPolling && r.cancelled then some { r with stage := .toStop (.ok ()) } else none
  | .unsignalled =>
    if r.isPolling then some { r with stage := .toStop (.error .noSignals) } else none

/-- The result, once the run is over. -/
def result? (r : ExtensionRun) : Option RunResult :=
  match r.stage with
  | .finished result => some result
  | _ => none

/-- How often events were asked for. -/
def polls (r : ExtensionRun) : Nat :=
  r.operations.countP fun o => match o with
    | .poll _ => true
    | _ => false

end ExtensionRun

end TelemetrySidecar
