import TelemetrySidecar.Text.Digit
import TelemetrySidecar.Text.Utf8

/-
  JSON as it is written

  A tree keeps what a text says in its order: numbers with their digits,
  members with repeated names, and, where the text is broken, what is wrong
  there. Reading a text into a tree never fails; who takes a tree apart from
  the left meets the fault at its place, after whatever else is wrong before it.

  A value that its taker does not need is passed over, and then less of it
  matters: strings may hold halves of surrogate pairs and ill-formed octets.
  So a fault is noted twice, once for each way of reading.
-/

namespace TelemetrySidecar.Json

/-- What is wrong with a text: it is not well formed, it is but has another
shape than expected, or it ends too early. -/
inductive Fault where
  | malformed
  | unfit
  | ended
  deriving DecidableEq, Repr

/-- The two faults of a broken place: for one who takes the value there, and for
one who passes it over. -/
structure Break where
  taken : Fault
  passed : Fault
  deriving DecidableEq, Repr

/-- How a collection ends: with its bracket, or where its text is broken. Where
a name was due, what stands there may have been taken for a value, with another
fault. -/
inductive Ending where
  | closed
  | broken (afterComma : Bool) (place : Break) (asValue : Fault)
  deriving DecidableEq, Repr

inductive Tree where
  | null
  | bool (value : Bool)
  | number (digits : List Char)
  | text (content : Except Fault (List Char))
  | broken (place : Break)
  | list (items : List Tree) (ending : Ending)
  | object (members : List (Except Fault (List Char) × Tree)) (ending : Ending)
  deriving Inhabited

/-! ## Characters -/

abbrev Glyph := Text.Glyph

def isSpace (c : Char) : Bool := c == ' ' || c == '\n' || c == '\t' || c == '\r'

/-- The text from its first character that is no space. -/
def skipSpaces : List Glyph → List Glyph
  | some c :: s => if isSpace c then skipSpaces s else some c :: s
  | s => s

/-- How many octets a glyph takes at least. -/
def Glyph.size (g : Glyph) : Nat :=
  match g with
  | some c => c.utf8Size
  | none => 1

/-- How many octets glyphs take at least. -/
def octetCount : List Glyph → Nat
  | [] => 0
  | g :: rest => g.size + octetCount rest

/-! ## Strings -/

/-- The code that four hexadecimal digits give. -/
def takeCode (s : List Glyph) : Except Fault (Nat × List Glyph) :=
  match s with
  | some a :: some b :: some c :: some d :: rest =>
    match Text.digitValue? a, Text.digitValue? b, Text.digitValue? c, Text.digitValue? d with
    | some a, some b, some c, some d => .ok (((a * 16 + b) * 16 + c) * 16 + d, rest)
    | _, _, _, _ => .error .malformed
  | _ => .error (if octetCount (s.take 4) < 4 then .ended else .malformed)

/-- The character that one letter after a backslash stands for. -/
def escapedChar? (c : Char) : Option Char :=
  match c with
  | '"' => some '"'
  | '\\' => some '\\'
  | '/' => some '/'
  | 'b' => some '\x08'
  | 'f' => some '\x0c'
  | 'n' => some '\n'
  | 'r' => some '\r'
  | 't' => some '\t'
  | _ => none

/-- The second half of a surrogate pair whose first half is given. -/
def takeLowHalf (high : Nat) (s : List Glyph) : Except Fault (Char × List Glyph) :=
  match s with
  | [] | [some '\\'] => .error .ended
  | some '\\' :: some 'u' :: s =>
    match takeCode s with
    | .error e => .error e
    | .ok (low, rest) =>
      if 0xDC00 ≤ low && low < 0xE000 then
        .ok (Char.ofNat (0x10000 + (high - 0xD800) * 0x400 + (low - 0xDC00)), rest)
      else .error .malformed
  | _ => .error .malformed

/-- The character of an escape, after its backslash. -/
def takeEscape (s : List Glyph) : Except Fault (Char × List Glyph) :=
  match s with
  | [] => .error .ended
  | some 'u' :: s =>
    match takeCode s with
    | .error e => .error e
    | .ok (code, rest) =>
      if 0xDC00 ≤ code && code < 0xE000 then .error .malformed
      else if 0xD800 ≤ code && code < 0xDC00 then takeLowHalf code rest
      else .ok (Char.ofNat code, rest)
  | some c :: rest =>
    match escapedChar? c with
    | some d => .ok (d, rest)
    | none => .error .malformed
  | none :: _ => .error .malformed

/-- The characters of a string after its first quote; `ill` says whether octets
before were ill-formed, which shows at the closing quote. -/
def takeString (ill : Bool) : Nat → List Glyph → Except Fault (List Char × List Glyph)
  | 0, _ => .error .ended
  | fuel + 1, s =>
    match s with
    | [] => .error .ended
    | none :: rest => takeString true fuel rest
    | some '"' :: rest => if ill then .error .malformed else .ok ([], rest)
    | some '\\' :: rest =>
      match takeEscape rest with
      | .error e => .error e
      | .ok (c, rest) => (takeString ill fuel rest).map fun p => (c :: p.1, p.2)
    | some c :: rest =>
      if c.toNat < 0x20 then .error .malformed
      else (takeString ill fuel rest).map fun p => (c :: p.1, p.2)

/-- What follows a string that is passed over, after its first quote. -/
def passString : Nat → List Glyph → Except Fault (List Glyph)
  | 0, _ => .error .ended
  | fuel + 1, s =>
    match s with
    | [] => .error .ended
    | some '"' :: rest => .ok rest
    | some '\\' :: some 'u' :: rest =>
      match takeCode rest with
      | .error e => .error e
      | .ok (_, rest) => passString fuel rest
    | some '\\' :: some c :: rest =>
      if (escapedChar? c).isSome then passString fuel rest else .error .malformed
    | [some '\\'] => .error .ended
    | some '\\' :: _ => .error .malformed
    | some c :: rest => if c.toNat < 0x20 then .error .malformed else passString fuel rest
    | none :: rest => passString fuel rest

/-- A string after its first quote: its content and what follows it, or the faults
of one that has no end. -/
def readString (fuel : Nat) (s : List Glyph) :
    Except Break (Except Fault (List Char) × List Glyph) :=
  match takeString false fuel s, passString fuel s with
  | .ok (content, rest), _ => .ok (.ok content, rest)
  | .error e, .ok rest => .ok (.error e, rest)
  | .error e, .error f => .error ⟨e, f⟩

/-! ## Numbers and words -/

def isDigitGlyph (g : Glyph) : Bool := g.any Char.isDigit

/-- The digits at the front, and what follows them. -/
def takeDigits (s : List Glyph) : List Char × List Glyph :=
  ((s.takeWhile isDigitGlyph).filterMap id, s.dropWhile isDigitGlyph)

/-- The faults of a number that misses a digit. -/
def missingDigit (s : List Glyph) : Break :=
  ⟨if s.isEmpty then .ended else .malformed, .malformed⟩

/-- At least one digit. -/
def takeDigits1 (s : List Glyph) : Except Break (List Char × List Glyph) :=
  match takeDigits s with
  | ([], rest) => .error (missingDigit rest)
  | p => .ok p

/-- The whole part of a number: digits without a needless zero. -/
def takeWhole (s : List Glyph) : Except Break (List Char × List Glyph) :=
  match takeDigits1 s with
  | .ok ('0' :: _ :: _, _) => .error ⟨.malformed, .malformed⟩
  | r => r

/-- A point and the digits after it, if there is a point. -/
def takeFraction (s : List Glyph) : Except Break (List Char × List Glyph) :=
  match s with
  | some '.' :: rest => (takeDigits1 rest).map fun p => ('.' :: p.1, p.2)
  | s => .ok ([], s)

/-- An exponent, if there is one. -/
def takeExponent (s : List Glyph) : Except Break (List Char × List Glyph) :=
  let digits (lead : List Char) (s : List Glyph) := (takeDigits1 s).map fun p => (lead ++ p.1, p.2)
  let afterMark (mark : Char) : List Glyph → Except Break (List Char × List Glyph)
    | some '+' :: rest => digits [mark, '+'] rest
    | some '-' :: rest => digits [mark, '-'] rest
    | rest => digits [mark] rest
  match s with
  | some 'e' :: rest => afterMark 'e' rest
  | some 'E' :: rest => afterMark 'E' rest
  | s => .ok ([], s)

/-- A number as it is written. -/
def takeNumber (s : List Glyph) : Except Break (List Char × List Glyph) :=
  let (sign, s) := match s with
    | some '-' :: rest => (['-'], rest)
    | s => ([], s)
  match takeWhole s with
  | .error e => .error e
  | .ok (whole, s) =>
    match takeFraction s with
    | .error e => .error e
    | .ok (fraction, s) =>
      match takeExponent s with
      | .error e => .error e
      | .ok (exponent, s) => .ok (sign ++ whole ++ fraction ++ exponent, s)

/-- What follows a word. -/
def takeWord : List Char → List Glyph → Except Fault (List Glyph)
  | [], s => .ok s
  | _ :: _, [] => .error .ended
  | c :: word, g :: s => if g = some c then takeWord word s else .error .malformed

/-! ## Values -/

/-- A value that was read, and what follows it; nothing does where the text is
broken. -/
abbrev Taken := Tree × Option (List Glyph)

def stopped (place : Break) : Taken := (.broken place, none)

/-- A place that is broken for both ways of reading. -/
def Break.of (fault : Fault) : Break := ⟨fault, fault⟩

/-- The value a word stands for. -/
def wordValue (word : String) (value : Tree) (s : List Glyph) : Taken :=
  match takeWord word.toList s with
  | .ok rest => (value, some rest)
  | .error e => stopped (.of e)

/-- The value of a number at the front. -/
def numberValue (s : List Glyph) : Taken :=
  match takeNumber s with
  | .ok (digits, rest) => (.number digits, some rest)
  | .error place => stopped place

/-- The value of a string after its first quote. -/
def stringValue (fuel : Nat) (s : List Glyph) : Taken :=
  match readString fuel s with
  | .ok (content, rest) => (.text content, some rest)
  | .error place => stopped place

/-- The scalar that begins here; a text that ends or goes on with anything else
is broken. -/
def scalarValue (fuel : Nat) (s : List Glyph) : Taken :=
  match s with
  | [] => stopped (.of .ended)
  | some '"' :: rest => stringValue fuel rest
  | some 'n' :: _ => wordValue "null" .null s
  | some 't' :: _ => wordValue "true" (.bool true) s
  | some 'f' :: _ => wordValue "false" (.bool false) s
  | some c :: _ =>
    if c.isDigit || c == '-' then numberValue s else stopped (.of .malformed)
  | none :: _ => stopped (.of .malformed)

/-- The fault where one character is due and another stands, or none. -/
def misplaced (s : List Glyph) : Fault := if s.isEmpty then .ended else .malformed

/-- How an object ends where a name is due and something else stands. -/
def unnamed (afterComma : Bool) (s : List Glyph) : Ending :=
  let asValue : Fault :=
    match s with
    | some '[' :: _ | some '\x7b' :: _ => .unfit
    | _ =>
      match (scalarValue 0 s).1 with
      | .broken place => place.taken
      | _ => .unfit
  .broken afterComma (.of (misplaced s)) asValue

/-- How a collection ends where a comma or a bracket is due and something else
stands. -/
def unclosed (s : List Glyph) : Ending := .broken false (.of (misplaced s)) (misplaced s)

mutual

/-- The value that begins here, after spaces. -/
def takeValue : Nat → List Glyph → Taken
  | 0, _ => stopped (.of .ended)
  | fuel + 1, s =>
    let s := skipSpaces s
    match s with
    | some '[' :: rest =>
      match skipSpaces rest with
      | some ']' :: rest => (.list [] .closed, some rest)
      | [] => (.list [] (unclosed []), none)
      | rest =>
        let (items, ending, rest) := takeItems fuel rest
        (.list items ending, rest)
    | some '\x7b' :: rest =>
      match skipSpaces rest with
      | some '\x7d' :: rest => (.object [] .closed, some rest)
      | rest =>
        let (members, ending, rest) := takeMembers fuel false rest
        (.object members ending, rest)
    | _ => scalarValue fuel s

/-- At least one item of a list, and how the list ends. -/
def takeItems : Nat → List Glyph → List Tree × Ending × Option (List Glyph)
  | 0, _ => ([], unclosed [], none)
  | fuel + 1, s =>
    match takeValue fuel s with
    | (item, none) => ([item], unclosed [], none)
    | (item, some rest) =>
      match skipSpaces rest with
      | some ']' :: rest => ([item], .closed, some rest)
      | some ',' :: rest =>
        let (items, ending, rest) := takeItems fuel rest
        (item :: items, ending, rest)
      | rest => ([item], unclosed rest, none)

/-- At least one member of an object, and how the object ends. -/
def takeMembers : Nat → Bool → List Glyph →
    List (Except Fault (List Char) × Tree) × Ending × Option (List Glyph)
  | 0, _, _ => ([], unclosed [], none)
  | fuel + 1, afterComma, s =>
    match skipSpaces s with
    | some '"' :: rest =>
      match readString fuel rest with
      | .error place => ([], .broken afterComma place place.taken, none)
      | .ok (name, rest) =>
        match skipSpaces rest with
        | some ':' :: rest =>
          match takeValue fuel rest with
          | (value, none) => ([(name, value)], unclosed [], none)
          | (value, some rest) =>
            match skipSpaces rest with
            | some '\x7d' :: rest => ([(name, value)], .closed, some rest)
            | some ',' :: rest =>
              let (members, ending, rest) := takeMembers fuel true rest
              ((name, value) :: members, ending, rest)
            | rest => ([(name, value)], unclosed rest, none)
        | rest => ([(name, .broken (.of (misplaced rest)))], unclosed [], none)
    | rest => ([], unnamed afterComma rest, none)

end

/-- A text as one value, and whether anything but spaces follows it. -/
structure Document where
  value : Tree
  trailing : Bool

/-- The document that glyphs are. -/
def Document.ofGlyphs (s : List Glyph) : Document :=
  match takeValue (2 * s.length + 2) s with
  | (value, some rest) => ⟨value, !(skipSpaces rest).isEmpty⟩
  | (value, none) => ⟨value, false⟩

/-- The document that a text is. -/
def Document.ofText (s : String) : Document := .ofGlyphs (s.toList.map some)

/-- The document that octets are. -/
def Document.ofOctets (octets : List UInt8) : Document := .ofGlyphs (Text.glyphs octets)

end TelemetrySidecar.Json
