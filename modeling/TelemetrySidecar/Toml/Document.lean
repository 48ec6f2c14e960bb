import TelemetrySidecar.Toml.Scalar

/-
  TOML documents

  A document is a sequence of lines: keys with values, and headers that say
  which table the keys after them belong to.
-/

namespace TelemetrySidecar.Toml

/-- How deep lists and tables between braces may lie, and how long a key may be. -/
def maxDepth : Nat := 79

/-! ## Keys -/

def isBare (c : Char) : Bool := c.isAlphanum || c == '-' || c == '_'

/-- One part of a key: a bare word or a string of one line. -/
def takePart (s : List Char) : Option (String × List Char) :=
  match s with
  | '"' :: _ | '\'' :: _ => takeLineString s
  | _ =>
    let word := s.takeWhile isBare
    if word.isEmpty then none else some (String.ofList word, s.dropWhile isBare)

/-- The parts of a key, with blanks around them. -/
def takeKey : Nat → List Char → Option (List String × List Char)
  | 0, _ => none
  | fuel + 1, s => do
    let (part, s) ← takePart (skipBlanks s)
    match skipBlanks s with
    | '.' :: s =>
      let (more, s) ← takeKey fuel s
      return (part :: more, s)
    | s => return ([part], s)

/-- A key as the path to a table and a name in it. -/
def takePath (s : List Char) : Option ((List String × String) × List Char) := do
  let (parts, s) ← takeKey maxDepth s
  return ((parts.dropLast, parts.getLastD ""), s)

/-! ## Values -/

/-- What follows a comment, if there is one. -/
def skipComment : List Char → List Char
  | '#' :: s => s.dropWhile isPrintable
  | s => s

/-- Past blanks, comments and line breaks. -/
def skipLines : Nat → List Char → List Char
  | 0, s => s
  | fuel + 1, s =>
    let s := skipComment (skipBlanks s)
    match dropBreak? s with
    | some s => skipLines fuel s
    | none => s

mutual

/-- A value; `depth` collections may still begin. -/
def takeValue : Nat → (depth : Nat) → List Char → Option (Item × List Char)
  | 0, _, _ => none
  | fuel + 1, depth, s =>
    match s with
    | '"' :: _ | '\'' :: _ => (takeString s).map fun p => (.text p.1, p.2)
    | '[' :: rest =>
      match depth with
      | 0 => none
      | depth + 1 =>
        (takeItems fuel depth rest).map fun p => (.list p.1, p.2)
    | '\x7b' :: rest =>
      match depth with
      | 0 => none
      | depth + 1 =>
        match skipBlanks rest with
        | '\x7d' :: rest => some (.table .inline [], rest)
        | rest => (takeEntries fuel depth [] rest).map fun p => (.table .inline p.1, p.2)
    | 't' :: 'r' :: 'u' :: 'e' :: rest => some (.bool true, rest)
    | 'f' :: 'a' :: 'l' :: 's' :: 'e' :: rest => some (.bool false, rest)
    | _ => takeNumeric s

/-- The items of a list, to and past its bracket. -/
def takeItems : Nat → Nat → List Char → Option (List Item × List Char)
  | 0, _, _ => none
  | fuel + 1, depth, s =>
    match skipLines s.length s with
    | ']' :: rest => some ([], rest)
    | s => do
      let (item, s) ← takeValue fuel depth s
      match skipLines s.length s with
      | ']' :: rest => return ([item], rest)
      | ',' :: rest =>
        let (more, rest) ← takeItems fuel depth rest
        return (item :: more, rest)
      | _ => none

/-- At least one entry of a table between braces, to and past its brace. -/
def takeEntries : Nat → Nat → Entries → List Char → Option (Entries × List Char)
  | 0, _, _, _ => none
  | fuel + 1, depth, entries, s => do
    let ((path, key), s) ← takePath s
    let s ← takeMark '=' s
    let (item, s) ← takeValue fuel depth (skipBlanks s)
    let entries ← entries.putAt path key item .inline
    match skipBlanks s with
    | '\x7d' :: rest => return (entries, rest)
    | ',' :: rest => takeEntries fuel depth entries rest
    | _ => none

end

/-! ## Lines -/

/-- A document in the making: its entries, and the path of the table that keys
belong to. -/
structure Draft where
  entries : Entries := []
  current : List String := []

/-- A line that is not empty: a header or a key with its value. -/
def takeLineOf (draft : Draft) (s : List Char) : Option (Draft × List Char) :=
  match s with
  | '[' :: '[' :: rest => do
    let ((path, key), rest) ← takePath rest
    match rest with
    | ']' :: ']' :: rest =>
      let entries ← draft.entries.changeAt false (Entries.openFurther key) path .explicit
      return ({ entries, current := path ++ [key] }, rest)
    | _ => none
  | '[' :: rest => do
    let ((path, key), rest) ← takePath rest
    let rest ← takeMark ']' rest
    let entries ← draft.entries.changeAt false (Entries.openTable key) path .explicit
    return ({ entries, current := path ++ [key] }, rest)
  | _ => do
    let ((path, key), rest) ← takePath s
    let rest ← takeMark '=' rest
    let (item, rest) ← takeValue (2 * rest.length + 2) maxDepth (skipBlanks rest)
    let entries ← draft.entries.changeAt false (Entries.putAt path key item) draft.current .explicit
    return ({ draft with entries }, rest)

/-- The lines of a document. -/
def takeDocument : Nat → Draft → List Char → Option Draft
  | 0, _, _ => none
  | fuel + 1, draft, s =>
    let s := skipBlanks s
    let line : Option (Draft × List Char) :=
      match s with
      | [] | '#' :: _ | '\n' :: _ | '\r' :: _ => some (draft, s)
      | _ => takeLineOf draft s
    match line with
    | none => none
    | some (draft, rest) =>
      match skipComment (skipBlanks rest) with
      | [] => some draft
      | rest =>
        match dropBreak? rest with
        | some rest => takeDocument fuel draft rest
        | none => none

/-- The entries of the document a text is. -/
def ofText? (s : List Char) : Option Entries :=
  let s := match s with
    | '\uFEFF' :: rest => rest
    | s => s
  (takeDocument (s.length + 1) {} s).map (·.entries)

end TelemetrySidecar.Toml
