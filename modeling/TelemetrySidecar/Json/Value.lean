import TelemetrySidecar.Json.Number

/-
  JSON values

  A value is what a tree means: numbers are numbers, and an object read from a
  text has its members in rising order of their names, of two members of one
  name the last. A value is written as text without spaces, its members in the
  order they are listed.
-/

namespace TelemetrySidecar.Json

inductive Value where
  | null
  | bool (value : Bool)
  | number (value : Number)
  | text (value : String)
  | list (items : List Value)
  | object (members : List (String × Value))
  deriving Inhabited

/-- How many collections may stand within one another around a value that is
taken. -/
def maxDepth : Nat := 127

/-! ## Reading -/

/-- One collection deeper; too deep a place counts as malformed. -/
def deeper (depth : Nat) : Except Fault Nat :=
  match depth with
  | 0 => .error .malformed
  | depth + 1 => .ok depth

/-- The end of a collection that is taken. -/
def Ending.take : Ending → Except Fault Unit
  | closed => .ok ()
  | broken _ place _ => .error place.taken

/-- The end of a collection that is passed over. -/
def Ending.pass : Ending → Except Fault Unit
  | closed => .ok ()
  | broken _ place _ => .error place.passed

/-- Puts a member among others in rising order of their names, over one of the
same name. -/
def putMember (name : String) (value : Value) : List (String × Value) → List (String × Value)
  | [] => [(name, value)]
  | (n, v) :: rest =>
    if name = n then (name, value) :: rest
    else if name < n then (name, value) :: (n, v) :: rest
    else (n, v) :: putMember name value rest

namespace Tree

/-- The number that digits give; one beyond all numbers counts as malformed. -/
def numberOf (digits : List Char) : Except Fault Number :=
  match Number.ofDigits digits with
  | some n => .ok n
  | none => .error .malformed

mutual

/-- The value of a tree; `depth` collections may still begin. -/
def value (depth : Nat) : Tree → Except Fault Value
  | null => .ok .null
  | bool b => .ok (.bool b)
  | number digits => (numberOf digits).map .number
  | text content => content.map fun s => .text (String.ofList s)
  | broken place => .error place.taken
  | list items ending =>
    match depth with
    | 0 => .error .malformed
    | depth + 1 => do
      let values ← valueItems depth items
      ending.take
      return .list values
  | object members ending =>
    match depth with
    | 0 => .error .malformed
    | depth + 1 => do
      let values ← valueMembers depth [] members
      ending.take
      return .object values

def valueItems (depth : Nat) : List Tree → Except Fault (List Value)
  | [] => .ok []
  | item :: rest => do
    let v ← value depth item
    let vs ← valueItems depth rest
    return v :: vs

/-- Members put among those before them. -/
def valueMembers (depth : Nat) (done : List (String × Value)) :
    List (Except Fault (List Char) × Tree) → Except Fault (List (String × Value))
  | [] => .ok done
  | (name, tree) :: rest => do
    let name ← name
    let v ← value depth tree
    valueMembers depth (putMember (String.ofList name) v done) rest

end

mutual

/-- Passes a tree over: whether it is well formed as far as that matters. -/
def pass : Tree → Except Fault Unit
  | broken place => .error place.passed
  | list items ending => do
    passItems items
    ending.pass
  | object members ending => do
    passMembers members
    ending.pass
  | _ => .ok ()

def passItems : List Tree → Except Fault Unit
  | [] => .ok ()
  | item :: rest => do
    item.pass
    passItems rest

def passMembers : List (Except Fault (List Char) × Tree) → Except Fault Unit
  | [] => .ok ()
  | (_, tree) :: rest => do
    tree.pass
    passMembers rest

end

end Tree

/-! ## Writing -/

/-- A character of a string as it is written. -/
def writeChar (c : Char) : List Char :=
  if c = '"' then ['\\', '"']
  else if c = '\\' then ['\\', '\\']
  else if c = '\x08' then ['\\', 'b']
  else if c = '\x0c' then ['\\', 'f']
  else if c = '\n' then ['\\', 'n']
  else if c = '\r' then ['\\', 'r']
  else if c = '\t' then ['\\', 't']
  else if c.toNat < 0x20 then
    ['\\', 'u', '0', '0', Nat.digitChar (c.toNat / 16), Nat.digitChar (c.toNat % 16)]
  else [c]

/-- A string between its quotes. -/
def writeString (s : String) : List Char := ['"'] ++ s.toList.flatMap writeChar ++ ['"']

namespace Value

/-- A natural number as a value. -/
def ofNat (n : Nat) : Value := .number (.int n)

mutual

/-- The text of a value. Only integers are ever written as numbers. -/
def write : Value → List Char
  | null => "null".toList
  | bool b => (if b then "true" else "false").toList
  | number (.int i) => (toString i).toList
  | number (.float _) => "null".toList
  | text s => writeString s
  | list items => ['['] ++ writeItems items ++ [']']
  | object members => ['\x7b'] ++ writeMembers members ++ ['\x7d']

def writeItems : List Value → List Char
  | [] => []
  | [item] => item.write
  | item :: rest => item.write ++ [','] ++ writeItems rest

def writeMembers : List (String × Value) → List Char
  | [] => []
  | [(name, value)] => writeString name ++ [':'] ++ value.write
  | (name, value) :: rest => writeString name ++ [':'] ++ value.write ++ [','] ++ writeMembers rest

end

/-- The text of a value. -/
def toText (v : Value) : String := String.ofList v.write

end Value

end TelemetrySidecar.Json
