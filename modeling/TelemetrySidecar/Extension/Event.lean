import TelemetrySidecar.Json.Decode

/-
  Lifecycle events

  The platform tells an extension that a function is invoked or that the process
  is to end. Which of both an event is stands in one of its members, wherever
  among them; so the others are kept until that is known. An event may also be a
  list of its parts, the kind of event first.
-/

namespace TelemetrySidecar

/-- Why a process is to end. -/
inductive ShutdownReason where
  | spindown
  | timeout
  | failure
  | unknown
  deriving DecidableEq, Repr

namespace ShutdownReason

def name : ShutdownReason → String
  | spindown => "spindown"
  | timeout => "timeout"
  | failure => "failure"
  | unknown => "unknown"

/-- The reason of a name; a name that is not known is a reason of its own. -/
def ofName (name : String) : ShutdownReason :=
  ([spindown, timeout, failure].find? fun r => r.name == name).getD unknown

end ShutdownReason

inductive LifecycleEvent where
  | invoke (deadlineMs : Nat) (requestId invokedFunctionArn : String)
  | shutdown (reason : ShutdownReason) (deadlineMs : Nat)
  deriving DecidableEq, Repr

namespace LifecycleEvent

def isShutdown : LifecycleEvent → Bool
  | invoke .. => false
  | shutdown .. => true

open Json

/-! ## The kind of an event -/

inductive Kind where
  | invoke
  | shutdown
  deriving DecidableEq, Repr

def Kind.all : List Kind := [.invoke, .shutdown]

def Kind.name : Kind → String
  | invoke => "INVOKE"
  | shutdown => "SHUTDOWN"

/-- The member that says the kind. -/
def kindName : String := "eventType"

def Kind.read (t : Tree) : Except Fault Kind := do
  let name ← t.string
  match all.find? fun kind => kind.name == name with
  | some kind => return kind
  | none => throw .unfit

/-- The parts of an event besides its kind: members, or items in order. -/
inductive Parts where
  | named (members : List (String × Tree))
  | ordered (items : List Tree)

/-- The kind and the other members of an event. -/
def splitMembers (depth : Nat) (kind : Option Kind) (others : List (String × Tree)) :
    List (Except Fault (List Char) × Tree) → Except Fault (Option Kind × List (String × Tree))
  | [] => .ok (kind, others)
  | (name, tree) :: rest => do
    let name := String.ofList (← name)
    if name = kindName then
      if kind.isSome then throw .unfit
      let kind ← Kind.read tree
      splitMembers depth (some kind) others rest
    else
      let _ ← tree.value depth
      splitMembers depth kind (others ++ [(name, tree)]) rest

/-- The kind and the other parts of an event. -/
def split (depth : Nat) (t : Tree) : Except Fault (Kind × Parts) :=
  match t with
  | .object members ending => do
    let depth ← deeper depth
    let (kind, others) ← splitMembers depth none [] members
    ending.take
    match kind with
    | some kind => return (kind, .named others)
    | none => throw .unfit
  | .list items ending => do
    let depth ← deeper depth
    match items with
    | [] =>
      ending.take
      throw .unfit
    | first :: rest =>
      let kind ← Kind.read first
      let _ ← rest.mapM (Tree.value depth)
      ending.take
      return (kind, .ordered rest)
  | t => .error t.mismatch

/-! ## The parts of an event -/

/-- What a part of an event holds. -/
inductive Field where
  | nat (n : Nat)
  | text (s : String)
  | reason (r : ShutdownReason)

/-- A reason: a name, or the only member of an object with nothing in it. -/
def readReason : Tree → Option ShutdownReason
  | .text (.ok name) => some (.ofName (String.ofList name))
  | .object [(.ok name, value)] .closed =>
    match value with
    | .null | .object [] .closed => some (.ofName (String.ofList name))
    | _ => none
  | _ => none

def readField (name : String) (t : Tree) : Option Field :=
  if name = "deadlineMs" then (t.natBelow (Word.size 64)).toOption.map .nat
  else if name = "shutdownReason" then (readReason t).map .reason
  else t.string.toOption.map .text

/-- The fields among the parts; one of a name is read, and no item may be left. -/
def Parts.fields (names : List String) : Parts → Option (List (String × Field))
  | named members =>
    let known := members.filter fun m => names.contains m.1
    if (known.map (·.1)).Nodup then
      known.mapM fun m => (readField m.1 m.2).map fun f => (m.1, f)
    else none
  | ordered items =>
    if items.length > names.length then none
    else (names.zip items).mapM fun m => (readField m.1 m.2).map fun f => (m.1, f)

def natField (name : String) (fields : List (String × Field)) : Nat :=
  match fields.lookup name with
  | some (.nat n) => n
  | _ => 0

def textField (name : String) (fields : List (String × Field)) : String :=
  match fields.lookup name with
  | some (.text s) => s
  | _ => ""

/-- The names of the parts of an event, in order. -/
def Kind.fieldNames : Kind → List String
  | invoke => ["deadlineMs", "requestId", "invokedFunctionArn"]
  | shutdown => ["shutdownReason", "deadlineMs"]

/-- The event of a kind that fields give. Only a reason may not be missing. -/
def ofFields (fields : List (String × Field)) : Kind → Option LifecycleEvent
  | .invoke => some (.invoke (natField "deadlineMs" fields) (textField "requestId" fields)
      (textField "invokedFunctionArn" fields))
  | .shutdown =>
    match fields.lookup "shutdownReason" with
    | some (.reason r) => some (.shutdown r (natField "deadlineMs" fields))
    | _ => none

def read (depth : Nat) (t : Tree) : Except Fault LifecycleEvent := do
  let (kind, parts) ← split depth t
  match (parts.fields kind.fieldNames).bind fun fields => ofFields fields kind with
  | some event => return event
  | none => throw .unfit

/-- The event a text describes. -/
def ofText (s : String) : Except Fault LifecycleEvent := (Document.ofText s).read read

end LifecycleEvent

end TelemetrySidecar
