/-
  Channels

  A channel holds what was sent and not yet received, first come first served,
  up to a bound. Who receives may close it; then nothing is taken any more, and
  what is held can still be received.
-/

namespace TelemetrySidecar

structure Channel (α : Type) where
  capacity : Nat
  queue : List α := []
  isOpen : Bool := true
  deriving DecidableEq, Repr

/-- Why a channel does not take an item. -/
inductive Refusal where
  | full
  | closed
  deriving DecidableEq, Repr

namespace Channel

variable {α : Type}

/-- Sends an item, if that is possible at once. A closed channel is closed
rather than full. -/
def offer (c : Channel α) (a : α) : Except Refusal (Channel α) :=
  if !c.isOpen then .error .closed
  else if c.capacity ≤ c.queue.length then .error .full
  else .ok { c with queue := c.queue ++ [a] }

/-- Receives the first item, if there is one. -/
def take? (c : Channel α) : Option (α × Channel α) :=
  match c.queue with
  | [] => none
  | a :: rest => some (a, { c with queue := rest })

def close (c : Channel α) : Channel α := { c with isOpen := false }

end Channel

end TelemetrySidecar
