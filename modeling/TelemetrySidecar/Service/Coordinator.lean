import TelemetrySidecar.Service.Kind
import TelemetrySidecar.Text.Millis

/-
  The coordinator of a service

  A coordinator has one service built, runs it as a task of its own and answers
  two calls: `start` waits until the service is ready, `stop` asks it to shut
  down and waits until its run has ended. It is a machine whose steps are what
  the caller does (call, give up a call, drop the coordinator), what a waiting
  call does (look at the service, run out of time) and what happens in the
  service. Between the steps of one the steps of the others may come in any
  order.
-/

namespace TelemetrySidecar

/-- Why a call of the coordinator failed. -/
inductive CoordinatorError (ε : Type) where
  | build (error : ε)
  | run (error : ε)
  | exitedEarly
  | unexpectedState (state : ServiceState)
  | startTimeout (millis : Nat)
  | alreadyStarted
  | panicked
  deriving DecidableEq, Repr

def CoordinatorError.message {ε : Type} : CoordinatorError ε → String
  | build _ => "failed to build collector service"
  | run _ => "collector service failed"
  | exitedEarly => "collector service exited before becoming ready"
  | unexpectedState state =>
    "collector service entered unexpected state " ++ state.name ++ " during startup"
  | startTimeout millis =>
    "collector service did not become ready within " ++ Text.span millis
  | alreadyStarted => "collector has already been started"
  | panicked => "collector service task panicked"

/-- What a coordinator knows of the end of the run: nothing was handed to it, it
has yet to collect it, or there is nothing left to collect. -/
inductive Completion where
  | idle
  | pending
  | done
  deriving DecidableEq, Repr

/-- The call a coordinator is in. A start may have seen a state from which the
service will not become ready. -/
inductive Call where
  | none
  | start (seen : Option ServiceState)
  | stop
  deriving DecidableEq, Repr

structure Coordinator (σ : Type) where
  /-- How long a start may take, in milliseconds. -/
  timeoutMs : Nat := 10000
  state : LifecycleState := .notStarted
  /-- The service, once it is built. Its task runs from then on. -/
  service : Option σ := none
  completion : Completion := .idle
  /-- Whether a stop has asked for the shutdown. -/
  latched : Bool := false
  call : Call := .none
  dropped : Bool := false
  /-- Whether somebody took the end of the run. -/
  collected : Bool := false
  builds : Nat := 0
  shutdowns : Nat := 0
  deriving DecidableEq, Repr

namespace Coordinator

variable {σ ι ε : Type}

/-- What a call answers. -/
abbrev Answer (ε : Type) := Except (CoordinatorError ε) Unit

/-- What the coordinator's owner, its calls and its service do. The factory's
answer comes with the call that asks for it. -/
inductive Label (σ ι ε : Type) where
  | start (built : Except ε σ)
  | stop
  | look
  | expire
  | giveUp
  | drop
  | service (event : ι)

/-- How the run of the service ended, if it has. -/
def ended (kind : ServiceKind σ ι ε) (c : Coordinator σ) : Option (RunEnd ε) :=
  c.service.bind kind.ended

/-- The state that is shown: a service that ended unasked has failed. -/
def shown (kind : ServiceKind σ ι ε) (c : Coordinator σ) : LifecycleState :=
  if c.state = .running && c.completion = .pending && (c.ended kind).isSome then .failed
  else c.state

/-- What an end of the run before readiness means. -/
def startError (seen : Option ServiceState) : RunEnd ε → CoordinatorError ε
  | .returned => (seen.map .unexpectedState).getD .exitedEarly
  | .failed error => .run error
  | .panicked => .panicked

/-- What an end of the run means to a stop. -/
def stopAnswer : RunEnd ε → Answer ε
  | .returned => .ok ()
  | .failed error => .error (.run error)
  | .panicked => .error .panicked

/-- A start goes on as far as it can: the end of the run comes before the
published state. -/
def lookStarting (kind : ServiceKind σ ι ε) (c : Coordinator σ) (seen : Option ServiceState)
    (s : σ) : Coordinator σ × Option (Answer ε) :=
  match kind.ended s with
  | some how =>
    ({ c with state := .failed, completion := .done, collected := true, call := .none },
      some (.error (startError seen how)))
  | none =>
    match seen, kind.published s with
    | some _, _ | none, .starting => (c, none)
    | none, .running =>
      ({ c with state := .running, completion := .pending, call := .none }, some (.ok ()))
    | none, state => ({ c with call := .start (some state) }, none)

/-- A stop goes on once the run has ended. -/
def lookStopping (kind : ServiceKind σ ι ε) (c : Coordinator σ) (s : σ) :
    Coordinator σ × Option (Answer ε) :=
  match kind.ended s with
  | none => (c, none)
  | some how =>
    let state := match how with
      | .returned => if c.state = .stopping then .stopped else c.state
      | _ => .failed
    ({ c with state, completion := .done, collected := true, call := .none },
      some (stopAnswer how))

/-- The call in progress looks at the service. -/
def look (kind : ServiceKind σ ι ε) (c : Coordinator σ) :
    Option (Coordinator σ × Option (Answer ε)) :=
  match c.call, c.service with
  | .start seen, some s => some (c.lookStarting kind seen s)
  | .stop, some s => some (c.lookStopping kind s)
  | _, _ => none

/-- Asks the service to shut down. -/
def askShutDown (kind : ServiceKind σ ι ε) (c : Coordinator σ) (s : σ) : Coordinator σ :=
  { c with service := some (kind.shutDown s), shutdowns := c.shutdowns + 1 }

/-- A call of `start`. The second one and all later ones only fail. -/
def start (c : Coordinator σ) (built : Except ε σ) : Coordinator σ × Option (Answer ε) :=
  if c.state ≠ .notStarted then (c, some (.error .alreadyStarted))
  else match built with
    | .error error =>
      ({ c with state := .failed, completion := .done, builds := c.builds + 1 },
        some (.error (.build error)))
    | .ok s =>
      ({ c with state := .starting, service := some s, call := .start none,
                builds := c.builds + 1 }, none)

/-- A call of `stop`. Only the first one asks for the shutdown. -/
def stop (kind : ServiceKind σ ι ε) (c : Coordinator σ) : Coordinator σ × Option (Answer ε) :=
  match c.service with
  | none => (c, some (.ok ()))
  | some s =>
    let c := if c.latched then c else
      let state := if c.state = .running then .stopping else c.state
      { c.askShutDown kind s with state, latched := true }
    if c.completion = .pending then ({ c with call := .stop }, none) else (c, some (.ok ()))

/-- The end of a coordinator: who never stopped the service asks it to shut down. -/
def drop (kind : ServiceKind σ ι ε) (c : Coordinator σ) : Coordinator σ :=
  match c.service with
  | some s => if c.latched then { c with dropped := true }
    else { c.askShutDown kind s with dropped := true }
  | none => { c with dropped := true }

/-- One step, and the answer if it ends a call. A step that is not possible has
no result. -/
def step (kind : ServiceKind σ ι ε) (c : Coordinator σ) :
    Label σ ι ε → Option (Coordinator σ × Option (Answer ε))
  | .start built => if c.call = .none && !c.dropped then some (c.start built) else none
  | .stop => if c.call = .none && !c.dropped then some (c.stop kind) else none
  | .drop => if c.call = .none && !c.dropped then some (c.drop kind, none) else none
  | .look => c.look kind
  | .giveUp => if c.call = .none then none else some ({ c with call := .none }, none)
  | .expire =>
    match c.call, c.look kind with
    | .start _, some (c, none) =>
      some ({ c with state := .failed, completion := .pending, call := .none },
        some (.error (.startTimeout c.timeoutMs)))
    | .start _, answered => answered
    | _, _ => none
  | .service event => do
    let s ← c.service
    let s ← kind.step s event
    return ({ c with service := some s }, none)

/-- The coordinator as one line. -/
def line (kind : ServiceKind σ ι ε) (c : Coordinator σ) : String :=
  "Collector \x7b state: " ++ (c.shown kind).label ++ ", startup_timeout: " ++
    Text.span c.timeoutMs ++ ", stopped: " ++ toString c.latched ++ ", .. \x7d"

end Coordinator

end TelemetrySidecar
