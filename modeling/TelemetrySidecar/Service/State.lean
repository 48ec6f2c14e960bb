/-
  Service states

  The states a service publishes about itself, and those of the coordinator
  that starts and stops it.
-/

namespace TelemetrySidecar

/-- What a service says about itself. -/
inductive ServiceState where
  | starting
  | running
  | closing
  | closed
  | failed
  deriving DecidableEq, Repr

namespace ServiceState

/-- All states, in the order a service may pass through them. -/
def all : List ServiceState := [.starting, .running, .closing, .closed, .failed]

def name : ServiceState → String
  | starting => "starting"
  | running => "running"
  | closing => "closing"
  | closed => "closed"
  | failed => "failed"

/-- A service in a terminal state will not become ready any more. -/
def isTerminal : ServiceState → Bool
  | starting | running => false
  | closing | closed | failed => true

end ServiceState

/-- Where a coordinator stands between its calls. -/
inductive LifecycleState where
  | notStarted
  | starting
  | running
  | stopping
  | stopped
  | failed
  deriving DecidableEq, Repr

namespace LifecycleState

/-- All states, in the order of a life. -/
def all : List LifecycleState := [.notStarted, .starting, .running, .stopping, .stopped, .failed]

def name : LifecycleState → String
  | notStarted => "not started"
  | starting => "starting"
  | running => "running"
  | stopping => "stopping"
  | stopped => "stopped"
  | failed => "failed"

/-- The state's word as one capitalised name. -/
def label : LifecycleState → String
  | notStarted => "NotStarted"
  | starting => "Starting"
  | running => "Running"
  | stopping => "Stopping"
  | stopped => "Stopped"
  | failed => "Failed"

end LifecycleState

end TelemetrySidecar
