import TelemetrySidecar.Configuration.Basic
import TelemetrySidecar.Environment
import TelemetrySidecar.Text.Cut

/-
  References to variables

  Text may refer to variables as `$name`, `$` with a name in braces, or the
  same with `env:` before the name; `$$` stands for one dollar. Text put in for
  a reference is not read again. References are put in wherever a string stands
  as a value that is not under a tag; keys stay.
-/

namespace TelemetrySidecar

namespace Reference

/-- The characters of a name that stands without braces. -/
def isNameChar (c : Char) : Bool := c.isAlphanum || c == '_'

/-- What a dollar stands for together with the characters after it. -/
inductive Meaning where
  | dollar
  | named (name : List Char)
  deriving DecidableEq, Repr

/-- The name in braces, without one `env:` before it. -/
def bareName (name : List Char) : List Char := (Text.dropLead "env:".toList name).getD name

/-- What a dollar means before the text given, and how many characters of that
text belong to it. -/
def meaning : List Char → Meaning × Nat
  | '$' :: _ => (.dollar, 1)
  | '{' :: s =>
    match Text.cut ['}'] s with
    | some (name, _) => (.named (bareName name), name.length + 2)
    | none => (.dollar, 0)
  | s =>
    match s.takeWhile isNameChar with
    | [] => (.dollar, 0)
    | name => (.named name, name.length)

/-- The text a meaning gives; an unknown variable gives none. -/
def Meaning.text (lookup : List Char → Option (List Char)) : Meaning → List Char
  | dollar => ['$']
  | named name => (lookup name).getD []

/-- The text with its references put in, after `skip` characters that belong to
a reference already read. -/
def expandFrom (lookup : List Char → Option (List Char)) : (skip : Nat) → List Char → List Char
  | _, [] => []
  | skip + 1, _ :: s => expandFrom lookup skip s
  | 0, c :: s =>
    if c = '$' then
      let (what, taken) := meaning s
      what.text lookup ++ expandFrom lookup taken s
    else c :: expandFrom lookup 0 s

/-- The text with its references put in. -/
def expand (lookup : List Char → Option (List Char)) (s : List Char) : List Char :=
  expandFrom lookup 0 s

end Reference

/-- The text of a variable, as characters. -/
def Environment.lookup (env : Environment) (name : List Char) : Option (List Char) :=
  (env.text? (String.ofList name)).map String.toList

namespace Node

mutual

/-- The node with the references in its strings put in. -/
def expand (lookup : List Char → Option (List Char)) : Node → Node
  | text s => text (String.ofList (Reference.expand lookup s.toList))
  | map entries => map (expandEntries lookup entries)
  | seq items => seq (expandItems lookup items)
  | node => node

def expandItems (lookup : List Char → Option (List Char)) : List Node → List Node
  | [] => []
  | item :: rest => item.expand lookup :: expandItems lookup rest

def expandEntries (lookup : List Char → Option (List Char)) : List (Node × Node) → Mapping
  | [] => []
  | (key, value) :: rest => (key, value.expand lookup) :: expandEntries lookup rest

end

end Node

/-- The configuration with the environment's variables put in. -/
def Configuration.expand (env : Environment) (c : Configuration) : Configuration :=
  ⟨Node.expandEntries env.lookup c.root⟩

end TelemetrySidecar
