import TelemetrySidecar.Text.Digit
import TelemetrySidecar.Yaml.Token.Basic

/-
  The text of scalars

  Block scalars keep or fold their lines below an indentation, flow scalars
  fold theirs between quotes or without any.
-/

namespace TelemetrySidecar.Yaml

/-- Line breaks between two stretches of text: the first, and those after it. -/
structure Breaks where
  first : List Char := []
  more : List Char := []

/-- What breaks become between two lines of a flow scalar: one line feed is a
space, further ones stay. -/
def Breaks.folded (b : Breaks) : List Char :=
  if b.first = ['\n'] then (if b.more.isEmpty then [' '] else b.more) else b.first ++ b.more

/-! ## Block scalars -/

/-- What happens to the breaks at the end of a block scalar. -/
inductive Chomping where
  | strip
  | clip
  | keep
  deriving DecidableEq

/-- The header of a block scalar, whose mark stands here: chomping and, if
given, the number of columns its text is indented by. -/
def takeBlockHeader (c : Cursor) : Except Fault ((Chomping × Option Nat) × Cursor) := do
  let chomping (c : Cursor) : Option Chomping :=
    if c.sees '+' then some .keep else if c.sees '-' then some .strip else none
  let indent (c : Cursor) : Except Fault (Option Nat) :=
    match c.peek with
    | some x =>
      if x = '0' then .error .badBlockHeader
      else if x.isDigit then .ok (Text.digitValue? x) else .ok none
    | none => .ok none
  let c := c.advance
  let (header, c) ← match chomping c with
    | some how =>
      let c := c.advance
      let columns ← indent c
      pure ((how, columns), c.advanceBy (if columns.isSome then 1 else 0))
    | none =>
      match ← indent c with
      | none => pure ((Chomping.clip, none), c)
      | some n =>
        let c := c.advance
        match chomping c with
        | some how => pure ((how, some n), c.advance)
        | none => pure ((Chomping.clip, some n), c)
  let c := c.skipComment
  if !c.atLineEnd then throw .badBlockHeader
  return (header, c.skipBreak)

/-- The empty lines before the next line of text, and the indentation: `0` if
it is to be found, as the widest of these lines and at least `least`. -/
def takeEmptyLines (least : Nat) :
    Nat → (indent widest : Nat) → Cursor → Except Fault ((List Char × Nat) × Cursor)
  | 0, indent, _, c => .ok (([], indent), c)
  | fuel + 1, indent, widest, c =>
    let within (c : Cursor) : Bool := indent = 0 || c.column < indent
    let spaces := (c.rest.takeWhile (· == ' ')).length
    let c := c.advanceBy (if indent = 0 then spaces else min spaces (indent - c.column))
    let widest := max widest c.column
    if within c && c.sees '\t' then .error .tabIndentation
    else if c.atClass isBreak then do
      let (x, c) := c.takeBreak
      let ((more, indent), c) ← takeEmptyLines least fuel indent widest c
      return ((x ++ more, indent), c)
    else .ok (([], if indent = 0 then max widest least else indent), c)

/-- The lines of a block scalar, one by one: `first` is the break that ended
the line before, `wasBlank` whether that line began with a blank. -/
def takeBlockLines (literal : Bool) (indent : Nat) :
    Nat → (first more : List Char) → (wasBlank : Bool) → Cursor →
      Except Fault ((List Char × Breaks) × Cursor)
  | 0, first, more, _, c => .ok (([], ⟨first, more⟩), c)
  | fuel + 1, first, more, wasBlank, c =>
    if c.column = indent && c.peek.isSome then do
      let isBlank := c.atClass isSpaceOrTab
      let joint :=
        if !literal && first = ['\n'] && !wasBlank && !isBlank then
          (if more.isEmpty then [' '] else []) ++ more
        else first ++ more
      let line := c.rest.takeWhile fun x => !isBreak x
      let c := c.advanceBy line.length
      let (first, c) := c.takeBreak
      let ((more, _), c) ← takeEmptyLines 0 (c.rest.length + 1) indent 0 c
      let ((rest, ending), c) ← takeBlockLines literal indent fuel first more isBlank c
      return ((joint ++ line ++ rest, ending), c)
    else .ok (([], ⟨first, more⟩), c)

/-- The block scalar whose mark stands here, within a node indented by
`parent` columns (`-1` at the top). -/
def takeBlockScalar (literal : Bool) (parent : Int) (c : Cursor) : Except Fault (String × Cursor) := do
  let ((chomping, columns), c) ← takeBlockHeader c
  let fixed := match columns with
    | some n => (max parent 0).toNat + n
    | none => 0
  let least := max (parent + 1).toNat 1
  let ((more, indent), c) ← takeEmptyLines least (c.rest.length + 1) fixed 0 c
  let ((text, ending), c) ← takeBlockLines literal indent (c.rest.length + 1) [] more false c
  let tail := match chomping with
    | .strip => []
    | .clip => ending.first
    | .keep => ending.first ++ ending.more
  return (String.ofList (text ++ tail), c)

/-! ## Flow scalars -/

/-- Spaces and tabs on a line, or from the first break on the breaks alone. -/
structure Gap where
  blanks : List Char := []
  breaks : Breaks := {}
  broken : Bool := false

/-- What a gap becomes between two stretches of text. -/
def Gap.text (g : Gap) : List Char := if g.broken then g.breaks.folded else g.blanks

/-- The gap that begins here. Where `margin` is given, a tab may not stand
before that column of a continued line. -/
def takeGap (margin : Option Int) : Nat → Gap → Cursor → Except Fault (Gap × Cursor)
  | 0, g, c => .ok (g, c)
  | fuel + 1, g, c =>
    match c.peek with
    | none => .ok (g, c)
    | some x =>
      if isSpaceOrTab x then
        if g.broken then
          if x = '\t' && margin.any (fun m => (c.column : Int) < m) then .error .tabIndentation
          else takeGap margin fuel g c.advance
        else takeGap margin fuel { g with blanks := g.blanks ++ [x] } c.advance
      else if isBreak x then
        let (b, c) := c.takeBreak
        if g.broken then
          takeGap margin fuel { g with breaks := { g.breaks with more := g.breaks.more ++ b } } c
        else takeGap margin fuel { blanks := [], breaks := { first := b }, broken := true } c
      else .ok (g, c)

/-- The character an escape of one letter stands for. -/
def simpleEscape (c : Char) : Option Char :=
  match c with
  | '0' => some '\x00'
  | 'a' => some '\x07'
  | 'b' => some '\x08'
  | 't' => some '\t'
  | '\t' => some '\t'
  | 'n' => some '\n'
  | 'v' => some '\x0b'
  | 'f' => some '\x0c'
  | 'r' => some '\r'
  | 'e' => some '\x1b'
  | ' ' => some ' '
  | '"' => some '"'
  | '/' => some '/'
  | '\\' => some '\\'
  | 'N' => some '\u0085'
  | '_' => some '\u00a0'
  | 'L' => some '\u2028'
  | 'P' => some '\u2029'
  | _ => none

/-- How many hexadecimal digits follow an escape's letter. -/
def escapeDigits (c : Char) : Option Nat :=
  match c with
  | 'x' => some 2
  | 'u' => some 4
  | 'U' => some 8
  | _ => none

/-- The escape that begins here: a character, and the place after it. -/
def takeCharEscape (c : Cursor) : Except Fault (Char × Cursor) :=
  match c.peekAt 1 with
  | none => .error .badEscape
  | some x =>
    match simpleEscape x with
    | some y => .ok (y, c.advanceBy 2)
    | none =>
      match escapeDigits x with
      | none => .error .badEscape
      | some n =>
        match Text.takeCodePoint n (c.rest.drop 2) with
        | some (y, _) => .ok (y, c.advanceBy (2 + n))
        | none => .error .badEscape

/-- The characters of a quoted scalar up to a blank, a break or the closing
quote; whether an escaped break ended them. -/
def takeQuotedWord (single : Bool) : Nat → Cursor → Except Fault ((List Char × Bool) × Cursor)
  | 0, c => .ok (([], false), c)
  | fuel + 1, c =>
    match c.rest with
    | [] => .ok (([], false), c)
    | x :: r =>
      if isSpaceOrTab x || isBreak x then .ok (([], false), c)
      else if single && x = '\'' then
        if r.head? = some '\'' then do
          let ((more, broken), c) ← takeQuotedWord single fuel (c.advanceBy 2)
          return (('\'' :: more, broken), c)
        else .ok (([], false), c)
      else if !single && x = '"' then .ok (([], false), c)
      else if !single && x = '\\' then
        if r.head?.any isBreak then .ok (([], true), c.advance.skipBreak)
        else do
          let (y, c) ← takeCharEscape c
          let ((more, broken), c) ← takeQuotedWord single fuel c
          return ((y :: more, broken), c)
      else do
        let ((more, broken), c) ← takeQuotedWord single fuel c.advance
        return ((x :: more, broken), c)

/-- The rest of a quoted scalar, up to and past its closing quote. -/
def takeQuotedRest (single : Bool) : Nat → Cursor → Except Fault (List Char × Cursor)
  | 0, _ => .error .unclosedQuote
  | fuel + 1, c => do
    if c.atDocumentMarker then throw .unclosedQuote
    if c.peek.isNone then throw .unclosedQuote
    let ((word, broken), c) ← takeQuotedWord single (c.rest.length + 1) c
    if c.sees (if single then '\'' else '"') then return (word, c.advance)
    let (gap, c) ← takeGap none (c.rest.length + 1) { broken } c
    let (rest, c) ← takeQuotedRest single fuel c
    return (word ++ gap.text ++ rest, c)

/-- The quoted scalar whose opening quote stands here. -/
def takeQuoted (single : Bool) (c : Cursor) : Except Fault (String × Cursor) := do
  let (text, c) ← takeQuotedRest single (c.rest.length + 1) c.advance
  return (String.ofList text, c)

/-- How many characters of a plain scalar stand here without a gap. -/
def takePlainWord (flow : Bool) : Nat → Cursor → Except Fault (List Char × Cursor)
  | 0, c => .ok ([], c)
  | fuel + 1, c =>
    match c.rest with
    | [] => .ok ([], c)
    | x :: r =>
      if isSpaceOrTab x || isBreak x then .ok ([], c)
      else if flow && x = ':' && r.head?.any (fun y => ",?[]\x7b\x7d".toList.contains y) then
        .error .colonBeforeIndicator
      else if (x = ':' && c.endsWordAt 1) || (flow && ",[]\x7b\x7d".toList.contains x) then
        .ok ([], c)
      else do
        let (more, c) ← takePlainWord flow fuel c.advance
        return (x :: more, c)

/-- The rest of a plain scalar after a gap, and whether a gap with a break
ended it. A gap counts only if more text follows. -/
def takePlainRest (flow : Bool) (margin : Int) : Nat → Gap → Cursor → Except Fault ((List Char × Bool) × Cursor)
  | 0, g, c => .ok (([], g.broken), c)
  | fuel + 1, g, c =>
    if c.atDocumentMarker || c.sees '#' then .ok (([], g.broken), c)
    else do
      let (word, c) ← takePlainWord flow (c.rest.length + 1) c
      if word.isEmpty then return (([], g.broken), c)
      let text := g.text ++ word
      if !c.atClass (fun x => isSpaceOrTab x || isBreak x) then return ((text, false), c)
      let (g, c) ← takeGap (some margin) (c.rest.length + 1) {} c
      if !flow && (c.column : Int) < margin then return ((text, g.broken), c)
      let ((more, broken), c) ← takePlainRest flow margin fuel g c
      return ((text ++ more, broken), c)

/-- The plain scalar that begins here, and whether the line after it may begin
with a key. -/
def takePlain (flow : Bool) (parent : Int) (c : Cursor) : Except Fault ((String × Bool) × Cursor) := do
  let ((text, broken), c) ← takePlainRest flow (parent + 1) (c.rest.length + 1) {} c
  return ((String.ofList text, broken), c)

end TelemetrySidecar.Yaml
