import TelemetrySidecar.Service.Coordinator

/-
  Calls that nothing disturbs

  Where nothing but the service takes time, a call of the coordinator has one
  course: the service goes on until it waits, and then the call looks. A start
  whose service is not ready by then never will see it ready.
-/

namespace TelemetrySidecar.Coordinator

variable {σ ι ε : Type}

/-- The next step of the call in progress, given what happens next in the
service. -/
def next? (happens : σ → Option ι) (c : Coordinator σ) : Option (Label σ ι ε) :=
  let event := (c.service.bind happens).map Label.service
  match c.call with
  | .none => none
  | .start _ => if c.timeoutMs = 0 then some .expire else some (event.getD .expire)
  | .stop => some (event.getD .look)

/-- The call in progress to its answer, for at most the number of steps given. -/
def course (kind : ServiceKind σ ι ε) (happens : σ → Option ι) :
    Nat → Coordinator σ → Coordinator σ × Option (Answer ε)
  | 0, c => (c, none)
  | n + 1, c =>
    match (c.next? happens).bind (c.step kind) with
    | none => (c, none)
    | some (c, some answer) => (c, some answer)
    | some (c, none) => course kind happens n c

/-- A start. -/
def startNow (kind : ServiceKind σ ι ε) (happens : σ → Option ι) (steps : Nat)
    (built : Except ε σ) (c : Coordinator σ) : Coordinator σ × Option (Answer ε) :=
  match c.start built with
  | (c, some answer) => (c, some answer)
  | (c, none) => course kind happens steps c

/-- A stop. -/
def stopNow (kind : ServiceKind σ ι ε) (happens : σ → Option ι) (steps : Nat)
    (c : Coordinator σ) : Coordinator σ × Option (Answer ε) :=
  match c.stop kind with
  | (c, some answer) => (c, some answer)
  | (c, none) => course kind happens steps c

end TelemetrySidecar.Coordinator
