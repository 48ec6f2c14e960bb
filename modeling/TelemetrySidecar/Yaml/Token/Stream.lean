import TelemetrySidecar.Yaml.Token.Property
import TelemetrySidecar.Yaml.Token.Scalar

/-
  The tokens of a text

  Indentation becomes tokens that open and close blocks. A key shows itself
  only by the colon after it: the place of a token that may begin a key is
  remembered, and the colon puts the key's token there. Such a place is given
  up at the end of its line and 1024 characters on; where the indentation asks
  for a key, giving it up is an error.
-/

namespace TelemetrySidecar.Yaml

/-- A place where a key may have begun: its token's number and position. -/
structure KeyPlace where
  required : Bool
  number : Nat
  index : Nat
  line : Nat
  column : Nat

/-- What a reader of tokens knows between two tokens. The tokens are those
read so far, the last one first; the levels hold the possible key of each open
flow collection and of the block around them. -/
structure Reader where
  cursor : Cursor
  tokens : List Token := []
  count : Nat := 0
  indent : Int := -1
  outer : List Int := []
  keyAllowed : Bool := true
  possible : Option KeyPlace := none
  levels : List (Option KeyPlace) := []

namespace Reader

/-- Whether a flow collection is open. -/
def inFlow (r : Reader) : Bool := !r.levels.isEmpty

def emit (t : Token) (r : Reader) : Reader :=
  { r with tokens := t :: r.tokens, count := r.count + 1 }

/-- Puts a token before the one with the number given. -/
def emitAt (number : Nat) (t : Token) (r : Reader) : Reader :=
  { r with tokens := r.tokens.insertIdx (r.count - number) t, count := r.count + 1 }

def moveTo (c : Cursor) (r : Reader) : Reader := { r with cursor := c }

def allowKey (allowed : Bool) (r : Reader) : Reader := { r with keyAllowed := allowed }

/-! ## Indentation -/

/-- Opens a block at a column, before the token with the number given. -/
def openBlock (column : Nat) (number : Nat) (t : Token) (r : Reader) : Reader :=
  if r.inFlow || r.indent ≥ column then r
  else { r.emitAt number t with indent := column, outer := r.indent :: r.outer }

/-- Closes the blocks that are indented further than the column. -/
def closeBlocks (column : Int) (r : Reader) : Reader :=
  if r.inFlow then r else go r.outer r
where
  go : List Int → Reader → Reader
  | outer :: rest, r =>
    if r.indent > column then go rest { r.emit .blockEnd with indent := outer, outer := rest }
    else r
  | [], r => r

/-! ## Possible keys -/

/-- Gives up the innermost possible key. -/
def dropKey (r : Reader) : Except Fault Reader :=
  if r.possible.any (·.required) then .error .missingColon else .ok { r with possible := none }

/-- Remembers that a key may begin here. -/
def markKey (r : Reader) : Except Fault Reader :=
  if r.keyAllowed then do
    let c := r.cursor
    let place : KeyPlace := {
      required := !r.inFlow && r.indent = c.column, number := r.count,
      index := c.index, line := c.line, column := c.column }
    return { (← r.dropKey) with possible := some place }
  else .ok r

/-- Whether a key that began there can no longer end here. -/
def KeyPlace.isStale (p : KeyPlace) (c : Cursor) : Bool :=
  p.line < c.line || p.index + 1024 < c.index

/-- Gives up the possible keys that are too far back. -/
def dropStaleKeys (r : Reader) : Except Fault Reader :=
  let stale (k : Option KeyPlace) : Bool := k.any (KeyPlace.isStale · r.cursor)
  if (r.possible :: r.levels).any fun k => stale k && k.any (·.required) then
    .error .missingColon
  else
    let keep (k : Option KeyPlace) := if stale k then none else k
    .ok { r with possible := keep r.possible, levels := r.levels.map keep }

/-! ## Between tokens -/

/-- Past blanks, comments and line breaks. A tab counts as a blank only where
no key may begin. -/
def skipBlanks : Nat → Reader → Reader
  | 0, r => r
  | fuel + 1, r =>
    let c := r.cursor
    let c := if c.column == 0 && c.sees '\uFEFF' then c.advance else c
    let c := c.advanceWhile fun x => x == ' ' || (x == '\t' && (r.inFlow || !r.keyAllowed))
    let c := if c.sees '#' then c.advanceWhile fun x => !isBreak x else c
    if c.atClass isBreak then
      skipBlanks fuel { r with cursor := c.skipBreak, keyAllowed := r.keyAllowed || !r.inFlow }
    else r.moveTo c

/-! ## Tokens by their first character -/

/-- A token of one character. -/
def mark (t : Token) (r : Reader) : Reader := (r.emit t).moveTo r.cursor.advance

def flowStart (t : Token) (r : Reader) : Except Fault Reader := do
  let r ← r.markKey
  let r := { r with levels := r.possible :: r.levels, possible := none }
  return (r.allowKey true).mark t

def flowEnd (t : Token) (r : Reader) : Except Fault Reader := do
  let r ← r.dropKey
  let r := match r.levels with
    | outer :: rest => { r with possible := outer, levels := rest }
    | [] => r
  return (r.allowKey false).mark t

def flowEntry (r : Reader) : Except Fault Reader := do
  let r ← r.dropKey
  return (r.allowKey true).mark .flowEntry

def blockEntry (r : Reader) : Except Fault Reader := do
  if !r.inFlow && !r.keyAllowed then throw .misplacedEntry
  let r := r.openBlock r.cursor.column r.count .blockSequenceStart
  let r ← r.dropKey
  return (r.allowKey true).mark .blockEntry

/-- The mark of a key that may be any node. -/
def complexKey (r : Reader) : Except Fault Reader := do
  if !r.inFlow && !r.keyAllowed then throw .misplacedKey
  let r := r.openBlock r.cursor.column r.count .blockMappingStart
  let r ← r.dropKey
  return (r.allowKey (!r.inFlow)).mark .key

/-- The colon: if a key may have begun, its token is put before it. -/
def colon (r : Reader) : Except Fault Reader :=
  match r.possible with
  | some place =>
    let r := (r.emitAt place.number .key).openBlock place.column place.number .blockMappingStart
    .ok ((({ r with possible := none }).allowKey false).mark .value)
  | none =>
    if !r.inFlow && !r.keyAllowed then .error .misplacedValue
    else
      let r := r.openBlock r.cursor.column r.count .blockMappingStart
      .ok ((r.allowKey (!r.inFlow)).mark .value)

/-- A token that may begin a key and after which none may begin. -/
def item (scan : Cursor → Except Fault (Token × Cursor)) (r : Reader) : Except Fault Reader := do
  let r ← r.markKey
  let (t, c) ← scan r.cursor
  return ((r.allowKey false).emit t).moveTo c

def blockScalar (literal : Bool) (r : Reader) : Except Fault Reader := do
  let r ← r.dropKey
  let (text, c) ← takeBlockScalar literal r.indent r.cursor
  return ((r.allowKey true).emit (.scalar text .block)).moveTo c

def plainScalar (r : Reader) : Except Fault Reader := do
  let r ← r.markKey
  let ((text, broken), c) ← takePlain r.inFlow r.indent r.cursor
  return ((r.allowKey broken).emit (.scalar text .plain)).moveTo c

/-- A token that stands at the top, outside all blocks. -/
def topLevel (scan : Cursor → Except Fault (Token × Cursor)) (r : Reader) :
    Except Fault Reader := do
  let r ← (r.closeBlocks (-1)).dropKey
  let (t, c) ← scan r.cursor
  return ((r.allowKey false).emit t).moveTo c

/-- Whether a plain scalar may begin with the next character. -/
def startsPlain (r : Reader) : Bool :=
  let c := r.cursor
  !c.endsWordAt 0 && !c.atClass (fun x => "-?:,[]\x7b\x7d#&*!|>'\"%@\x60".toList.contains x)
    || (c.sees '-' && !(c.peekAt 1).any isSpaceOrTab)
    || (!r.inFlow && (c.sees '?' || c.sees ':') && !c.endsWordAt 1)

/-- The next token; `true` once the text is at its end. -/
def next (r : Reader) : Except Fault (Reader × Bool) := do
  let r ← (r.skipBlanks (r.cursor.rest.length + 1)).dropStaleKeys
  let r := r.closeBlocks r.cursor.column
  let c := r.cursor
  match c.peek with
  | none =>
    let r ← (r.closeBlocks (-1)).dropKey
    return ((r.allowKey false).emit .streamEnd, true)
  | some x =>
    let marks := (x = '?' || x = ':') && (r.inFlow || c.endsWordAt 1)
    let r ←
      if x = '%' && c.column = 0 then r.topLevel takeDirective
      else if c.atMarker '-' then r.topLevel fun c => .ok (.documentStart, c.advanceBy 3)
      else if c.atMarker '.' then r.topLevel fun c => .ok (.documentEnd, c.advanceBy 3)
      else if x = '[' then r.flowStart .flowSequenceStart
      else if x = '\x7b' then r.flowStart .flowMappingStart
      else if x = ']' then r.flowEnd .flowSequenceEnd
      else if x = '\x7d' then r.flowEnd .flowMappingEnd
      else if x = ',' then r.flowEntry
      else if x = '-' && c.endsWordAt 1 then r.blockEntry
      else if x = '?' && marks then r.complexKey
      else if x = ':' && marks then r.colon
      else if x = '*' then r.item fun c => (takeAnchor c).map fun p => (.alias p.1, p.2)
      else if x = '&' then r.item fun c => (takeAnchor c).map fun p => (.anchor p.1, p.2)
      else if x = '!' then r.item fun c => (takeTag r.inFlow c).map fun p => (.tag p.1, p.2)
      else if x = '|' && !r.inFlow then r.blockScalar true
      else if x = '>' && !r.inFlow then r.blockScalar false
      else if x = '\'' then r.item fun c => (takeQuoted true c).map fun p => (.scalar p.1 .quoted, p.2)
      else if x = '"' then r.item fun c => (takeQuoted false c).map fun p => (.scalar p.1 .quoted, p.2)
      else if r.startsPlain then r.plainScalar
      else .error .noToken
    return (r, false)

/-- All tokens. Each takes at least one character, so their number is bounded
by the length of the text. -/
def all : Nat → Reader → Except Fault (List Token)
  | 0, _ => .error .noToken
  | fuel + 1, r => do
    let (r, done) ← r.next
    if done then return r.tokens.reverse else all fuel r

end Reader

/-- The tokens of a text, to the one that ends the stream. -/
def tokens (text : List Char) : Except Fault (List Token) :=
  if text.all isAllowed then Reader.all (text.length + 1) { cursor := { rest := text } }
  else .error .forbiddenCharacter

end TelemetrySidecar.Yaml
