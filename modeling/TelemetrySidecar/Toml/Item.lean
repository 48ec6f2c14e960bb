import TelemetrySidecar.Binary64.Basic

/-
  Tables of a TOML document

  A table may be written once, in one of several forms: between braces, under a
  header, or bit by bit through dotted keys. What may be added to a table later
  depends on its form, so the form is kept with it.
-/

namespace TelemetrySidecar.Toml

/-- How a table came about. A table that a header only passed through is
implicit until it gets a header of its own. -/
inductive Form where
  | inline
  | implicit
  | dotted
  | explicit
  deriving DecidableEq, Repr

inductive Item where
  | bool (value : Bool)
  | int (value : Int)
  | float (value : Binary64)
  | text (value : String)
  /-- A date or a time, as it was written. -/
  | moment (value : String)
  | list (items : List Item)
  | table (form : Form) (entries : List (String × Item))
  /-- Tables under headers of one name, the last one first. -/
  | tables (all : List (List (String × Item)))
  deriving Inhabited

abbrev Entries := List (String × Item)

namespace Entries

/-- The entries with the item of a key that they have replaced. -/
def replace (key : String) (item : Item) : Entries → Entries
  | [] => []
  | (k, i) :: rest => if k = key then (k, item) :: rest else (k, i) :: replace key item rest

/-- The form of a table that a path creates on its way. -/
def newForm (dotted : Bool) : Form := if dotted then .dotted else .implicit

/-- Changes the table at the end of a path, creating the tables on the way. A
dotted path enters no table that has a header; no path enters a table between
braces; in tables of one name a path enters the last. -/
def changeAt (dotted : Bool) (change : Form → Entries → Option Entries) :
    List String → Form → Entries → Option Entries
  | [], form, entries => change form entries
  | key :: rest, _, entries =>
    match entries.lookup key with
    | none =>
      (changeAt dotted change rest (newForm dotted) []).map fun inner =>
        entries ++ [(key, .table (newForm dotted) inner)]
    | some (.table form inner) =>
      if form = .inline || (dotted && form = .explicit) then none
      else (changeAt dotted change rest form inner).map fun inner =>
        replace key (.table form inner) entries
    | some (.tables (last :: others)) =>
      (changeAt dotted change rest .explicit last).map fun last =>
        replace key (.tables (last :: others)) entries
    | some _ => none

/-- Puts an item under a key that is not there yet. A dotted path must have led
to a table that dotted paths made. -/
def put (nested : Bool) (key : String) (item : Item) (form : Form) (entries : Entries) :
    Option Entries :=
  if nested != (form == .dotted) || (entries.lookup key).isSome then none
  else some (entries ++ [(key, item)])

/-- Puts an item under a dotted key. -/
def putAt (path : List String) (key : String) (item : Item) (form : Form) (entries : Entries) :
    Option Entries :=
  changeAt true (put (!path.isEmpty) key item) path form entries

/-- Gives a table its header. -/
def openTable (key : String) (_ : Form) (entries : Entries) : Option Entries :=
  match entries.lookup key with
  | none => some (entries ++ [(key, .table .explicit [])])
  | some (.table .implicit inner) => some (replace key (.table .explicit inner) entries)
  | some _ => none

/-- Begins a further table under a name. -/
def openFurther (key : String) (_ : Form) (entries : Entries) : Option Entries :=
  match entries.lookup key with
  | none => some (entries ++ [(key, .tables [[]])])
  | some (.tables all) => some (replace key (.tables ([] :: all)) entries)
  | some _ => none

end Entries

end TelemetrySidecar.Toml
