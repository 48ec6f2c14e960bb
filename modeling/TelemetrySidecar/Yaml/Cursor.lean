/-
  Reading positions in a document

  A cursor is the text still to be read with the place reached: how many
  characters were read, on which line, in which column. The classes of
  characters that the syntax names stand beside it.
-/

namespace TelemetrySidecar.Yaml

/-- Why a text is not a document. -/
inductive Fault where
  | forbiddenCharacter
  | noToken
  | missingColon
  | misplacedEntry
  | misplacedKey
  | misplacedValue
  | badDirective
  | badTag
  | badAnchor
  | badBlockHeader
  | tabIndentation
  | unclosedQuote
  | badEscape
  | colonBeforeIndicator
  | unexpectedToken
  | unknownTagHandle
  | unknownAnchor
  | secondDocument
  | nestedTooDeep
  | repeatedTooOften
  | badTaggedScalar
  | numberOutOfRange
  | duplicateKey
  deriving DecidableEq, Repr

/-! ## Classes of characters -/

/-- The characters a document may hold at all. -/
def isAllowed (c : Char) : Bool :=
  let n := c.toNat
  n == 0x09 || n == 0x0A || n == 0x0D || (0x20 ≤ n && n ≤ 0x7E) || n == 0x85
    || (0xA0 ≤ n && n ≤ 0xFFFD) || 0x10000 ≤ n

def isBreak (c : Char) : Bool :=
  c == '\n' || c == '\r' || c == '\u0085' || c == '\u2028' || c == '\u2029'

def isSpaceOrTab (c : Char) : Bool := c == ' ' || c == '\t'

/-- The characters of names: letters, digits, the hyphen and the underscore. -/
def isWord (c : Char) : Bool := c.isAlphanum || c == '-' || c == '_'

/-! ## The cursor -/

structure Cursor where
  rest : List Char
  index : Nat := 0
  line : Nat := 0
  column : Nat := 0

namespace Cursor

def peek (c : Cursor) : Option Char := c.rest.head?

def peekAt (c : Cursor) (k : Nat) : Option Char := (c.rest.drop k).head?

/-- Whether the next character is `x`. -/
def sees (c : Cursor) (x : Char) : Bool := c.peek == some x

/-- Whether the next character is in a class; the end of the text is in none. -/
def atClass (c : Cursor) (p : Char → Bool) : Bool := c.peek.any p

/-- Whether the character `k` places on ends a word: a space, a tab, a line
break or the end of the text. -/
def endsWordAt (c : Cursor) (k : Nat) : Bool :=
  (c.peekAt k).all fun x => isSpaceOrTab x || isBreak x

/-- Whether the text or the line ends here. -/
def atLineEnd (c : Cursor) : Bool := c.peek.all isBreak

/-- Past one character of the line. -/
def advance (c : Cursor) : Cursor :=
  { c with rest := c.rest.tail, index := c.index + 1, column := c.column + 1 }

/-- Past some characters of the line. -/
def advanceBy (c : Cursor) (k : Nat) : Cursor :=
  { c with rest := c.rest.drop k, index := c.index + k, column := c.column + k }

/-- Past the characters of a class, which the line holds next. -/
def advanceWhile (c : Cursor) (p : Char → Bool) : Cursor :=
  c.advanceBy (c.rest.takeWhile p).length

/-- Past a line break, if there is one, with what it stands for: every break
but the two separators of Unicode is a line feed. -/
def takeBreak (c : Cursor) : List Char × Cursor :=
  match c.rest with
  | '\r' :: '\n' :: r =>
    (['\n'], { rest := r, index := c.index + 2, line := c.line + 1, column := 0 })
  | x :: r =>
    if isBreak x then
      (if x == '\u2028' || x == '\u2029' then [x] else ['\n'],
        { rest := r, index := c.index + 1, line := c.line + 1, column := 0 })
    else ([], c)
  | [] => ([], c)

/-- Past a line break, if there is one. -/
def skipBreak (c : Cursor) : Cursor := c.takeBreak.2

/-- Past spaces and tabs, and past a comment that follows them. -/
def skipComment (c : Cursor) : Cursor :=
  let c := c.advanceWhile isSpaceOrTab
  if c.sees '#' then c.advanceWhile fun x => !isBreak x else c

/-- Whether a line begins here with three copies of `x` and no more. -/
def atMarker (c : Cursor) (x : Char) : Bool :=
  c.column == 0 && c.rest.take 3 == [x, x, x] && c.endsWordAt 3

/-- Whether a line begins here that ends a document or begins the next. -/
def atDocumentMarker (c : Cursor) : Bool := c.atMarker '-' || c.atMarker '.'

end Cursor

end TelemetrySidecar.Yaml
