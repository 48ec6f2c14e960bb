import TelemetrySidecar.Binary64.DecimalText
import TelemetrySidecar.Node.Basic
import TelemetrySidecar.Text.Digit
import TelemetrySidecar.Word

/-
  What plain scalars mean

  Null, booleans, integers in four bases and numbers; a plain scalar that is
  none of these is a string. Digits that begin with a needless zero are a
  string, and so is a number too large to be finite.
-/

namespace TelemetrySidecar.Yaml

def isNullWord (s : String) : Bool := ["null", "Null", "NULL", "~"].contains s

/-- The boolean a word is. -/
def boolOf (s : String) : Option Bool :=
  if ["true", "True", "TRUE"].contains s then some true
  else if ["false", "False", "FALSE"].contains s then some false
  else none

/-! ## Integers -/

/-- Whether the text is digits alone, more than one, the first a zero; a sign
may stand before them. -/
def hasNeedlessZero (s : List Char) : Bool :=
  let digits := match s with
    | '-' :: r => r
    | '+' :: r => r
    | r => r
  digits.length > 1 && digits.head? == some '0' && digits.all Char.isDigit

/-- Digits with the prefix of their base, or in base ten without one. -/
def magnitudeOf (s : List Char) : Option Nat :=
  let based := match s with
    | '0' :: 'x' :: r => Text.numeral? 16 r
    | '0' :: 'o' :: r => Text.numeral? 8 r
    | '0' :: 'b' :: r => Text.numeral? 2 r
    | _ => none
  based <|> Text.numeral? 10 s

/-- The integer a text writes, of any size. -/
def integerOf (s : List Char) : Option Int :=
  if hasNeedlessZero s then none
  else match s with
    | '-' :: r => (magnitudeOf r).map fun n => -(n : Int)
    | '+' :: r => (magnitudeOf r).map Int.ofNat
    | r => (magnitudeOf r).map Int.ofNat

/-- The size of an integer: what a node can hold, what 128 bits can hold, or
more. -/
inductive Size where
  | node
  | wide
  | beyond
  deriving DecidableEq

def Size.ofInt (i : Int) : Size :=
  if Word.fitsSigned 64 i || Word.fitsUnsigned 64 i then .node
  else if Word.fitsSigned 128 i || Word.fitsUnsigned 128 i then .wide
  else .beyond

/-! ## Numbers -/

/-- The number a text writes; a number that is not finite has words of its
own. -/
def floatOf (s : String) : Option Binary64 :=
  let bare := match s.toList with
    | '+' :: r => r
    | r => r
  if s.toList.head? = some '+' && (bare.head? = some '+' || bare.head? = some '-') then none
  else if [".inf", ".Inf", ".INF"].contains (String.ofList bare) then some (Binary64.infinity false)
  else if ["-.inf", "-.Inf", "-.INF"].contains s then some (Binary64.infinity true)
  else if [".nan", ".NaN", ".NAN"].contains s then some Binary64.nan
  else (Binary64.read? bare).filter (·.isFinite)

/-! ## Scalars -/

/-- The node of an integer: one that a node cannot hold but 128 bits can is an
error, one beyond that is no integer. -/
def integerNode (s : String) : Option (Except Unit Node) :=
  match integerOf s.toList with
  | none => none
  | some i =>
    match Size.ofInt i with
    | .node => some (.ok (.int i))
    | .wide => some (.error ())
    | .beyond => none

/-- The node a plain scalar is; no node for an integer of the wrong size. -/
def plainNode (s : String) : Option Node :=
  if s.isEmpty || isNullWord s then some .null
  else match boolOf s with
    | some b => some (.bool b)
    | none =>
      match integerNode s with
      | some (.ok n) => some n
      | some (.error ()) => none
      | none =>
        if hasNeedlessZero s.toList then some (.text s)
        else match floatOf s with
          | some x => some (.float x)
          | none => some (.text s)

end TelemetrySidecar.Yaml
