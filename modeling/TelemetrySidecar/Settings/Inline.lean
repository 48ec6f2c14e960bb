import TelemetrySidecar.Settings.Value
import TelemetrySidecar.Text.Blank
import TelemetrySidecar.Toml.Scalar

/-
  Values written in variables

  A variable holds a word, a number, a quoted string, a character, a list in
  brackets or a table in braces. A text that is none of these is a string as a
  whole.
-/

namespace TelemetrySidecar.Setting.Inline

/-- The blanks between values. -/
def isBlank (c : Char) : Bool := c == ' ' || c == '\t' || c == '\n' || c == '\x0c' || c == '\r'

def skipBlanks (s : List Char) : List Char := s.dropWhile isBlank

/-- The characters that end a word. -/
def isSeparator (c : Char) : Bool := ",[]\x7b\x7d".toList.contains c

/-- The characters of a key without quotes. -/
def isKeyChar (c : Char) : Bool := c.isAlphanum || c == '_' || c == '-'

/-- The rest of a string in double quotes, to and past its closing quote. -/
def takeQuoted (s : List Char) : Option (List Char × List Char) :=
  Toml.takeLine '"' (s.length + 1) s

/-! ## Words -/

/-- A number of digits alone, with or without a sign. -/
def takeInteger (s : List Char) : Option Setting :=
  let (negative, digits) := Binary64.takeSign s
  if digits.isEmpty || !digits.all Char.isDigit then none
  else
    let n := Text.numeral 10 digits
    if !negative then if n < Word.size 64 then some (.int false n) else none
    else if n ≤ Word.size 63 then some (.int true (-(n : Int))) else none

/-- The value of a word: a number with a point in it, an integer, or the word
itself. -/
def wordValue (word : List Char) : Setting :=
  let float := if word.contains '.' then Binary64.read? word else none
  match float with
  | some x => .float x
  | none => (takeInteger word).getD (.text (String.ofList word))

/-! ## Values -/

/-- A key: a quoted string or at least one character of a word. -/
def takeKey (s : List Char) : Option (String × List Char) :=
  match s with
  | '"' :: rest => (takeQuoted rest).map fun p => (String.ofList p.1, p.2)
  | _ =>
    let word := s.takeWhile isKeyChar
    if word.isEmpty then none else some (String.ofList word, s.dropWhile isKeyChar)

mutual

/-- A value, with the blanks around it. -/
def takeValue : Nat → List Char → Option (Setting × List Char)
  | 0, _ => none
  | fuel + 1, s =>
    let found : Option (Setting × List Char) :=
      match skipBlanks s with
      | 't' :: 'r' :: 'u' :: 'e' :: rest => some (.bool true, rest)
      | 'f' :: 'a' :: 'l' :: 's' :: 'e' :: rest => some (.bool false, rest)
      | '\x7b' :: rest => (takeEntries fuel rest).map fun p => (.table (Table.ofEntries p.1), p.2)
      | '[' :: rest => (takeItems fuel rest).map fun p => (.list p.1, p.2)
      | '"' :: rest =>
        (takeQuoted rest).map fun p => (.text (String.ofList p.1), p.2)
      | '\'' :: rest =>
        match rest with
        | c :: '\'' :: rest => some (.char c, rest)
        | _ => none
      | s =>
        let word := s.takeWhile fun c => !isSeparator c
        some (wordValue (Text.trim word), s.dropWhile fun c => !isSeparator c)
    found.map fun p => (p.1, skipBlanks p.2)

/-- The items of a list, to and past its bracket. -/
def takeItems : Nat → List Char → Option (List Setting × List Char)
  | 0, _ => none
  | fuel + 1, s =>
    match s with
    | ']' :: rest => some ([], rest)
    | _ =>
      match takeValue fuel s with
      | none => none
      | some (item, rest) =>
        match rest with
        | ',' :: rest => (takeItems fuel rest).map fun p => (item :: p.1, p.2)
        | ']' :: rest => some ([item], rest)
        | _ => none

/-- The entries of a table, to and past its brace. -/
def takeEntries : Nat → List Char → Option (List (String × Setting) × List Char)
  | 0, _ => none
  | fuel + 1, s =>
    match s with
    | '\x7d' :: rest => some ([], rest)
    | _ =>
      match takeKey (skipBlanks s) with
      | none => none
      | some (key, rest) =>
        match skipBlanks rest with
        | '=' :: rest =>
          match takeValue fuel rest with
          | none => none
          | some (value, rest) =>
            match rest with
            | ',' :: rest => (takeEntries fuel rest).map fun p => ((key, value) :: p.1, p.2)
            | '\x7d' :: rest => some ([(key, value)], rest)
            | _ => none
        | _ => none

end

end Inline

/-- The value a variable's text is. -/
def ofText (s : String) : Setting :=
  let cs := s.toList
  match Inline.takeValue (2 * cs.length + 2) cs with
  | some (value, []) => value
  | _ => .text s

end TelemetrySidecar.Setting
