import TelemetrySidecar.Toml.Item

/-
  Values of settings

  Settings are gathered from layers of tables. A table has its entries in rising
  order of their keys; laying one table over another keeps what only one of them
  has and goes on inside where both hold tables.
-/

namespace TelemetrySidecar

inductive Setting where
  | absent
  | bool (value : Bool)
  | int (signed : Bool) (value : Int)
  | float (value : Binary64)
  | char (value : Char)
  | text (value : String)
  | list (items : List Setting)
  | table (entries : List (String × Setting))
  deriving Inhabited

namespace Setting

abbrev Table := List (String × Setting)

/-- Puts a value under a key, in place of the one there was. -/
def Table.put (key : String) (value : Setting) : Table → Table
  | [] => [(key, value)]
  | (k, v) :: rest =>
    if key = k then (key, value) :: rest
    else if key < k then (key, value) :: (k, v) :: rest
    else (k, v) :: put key value rest

/-- The table of some entries, of which later ones replace earlier ones. -/
def Table.ofEntries (entries : List (String × Setting)) : Table :=
  entries.foldl (fun t e => t.put e.1 e.2) []

mutual

/-- What a value becomes that is laid over an old one. -/
def laidOver (old : Option Setting) : Setting → Setting
  | table upper =>
    match old with
    | some (table lower) => table (tableOver lower upper)
    | _ => table upper
  | value => value

/-- The first table with the entries of the second laid over it. -/
def tableOver (lower : Table) : List (String × Setting) → Table
  | [] => lower
  | (key, value) :: rest => tableOver (lower.put key (laidOver (lower.lookup key) value)) rest

end

/-- The value under a path of keys, as a table of tables; under no key, the value
itself. -/
def nested : List String → Setting → Setting
  | [], value => value
  | key :: rest, value => table [(key, nested rest value)]

/-- The key under which a date or a time stands, as the only entry of a table. -/
def momentKey : String := "$__toml_private_datetime"

mutual

/-- The value an item of a document is. -/
def ofItem : Toml.Item → Setting
  | .bool b => bool b
  | .int i => int true i
  | .float x => float x
  | .text s => text s
  | .moment s => table [(momentKey, text s)]
  | .list items => list (ofItems items)
  | .table _ entries => table (ofEntries entries)
  | .tables all => list (ofTables all).reverse

def ofItems : List Toml.Item → List Setting
  | [] => []
  | item :: rest => ofItem item :: ofItems rest

def ofEntries : List (String × Toml.Item) → Table
  | [] => []
  | (key, item) :: rest => Table.put key (ofItem item) (ofEntries rest)

def ofTables : List (List (String × Toml.Item)) → List Setting
  | [] => []
  | entries :: rest => table (ofEntries entries) :: ofTables rest

end

end Setting

end TelemetrySidecar
