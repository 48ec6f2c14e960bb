import TelemetrySidecar.Binary64.Basic
import TelemetrySidecar.Text.Digit

/-
  Decimal text of binary64 numbers

  Reading takes digits with an optional point and an optional exponent and
  rounds once. Writing takes the fewest digits that read back, of those the
  nearest, and never an exponent.
-/

namespace TelemetrySidecar.Binary64

/-! ## Reading -/

/-- The value of decimal digits. -/
def digitsValue (digits : List Char) : Nat := Text.numeral 10 digits

/-- An optional sign and what follows it. -/
def takeSign : List Char → Bool × List Char
  | '-' :: s => (true, s)
  | '+' :: s => (false, s)
  | s => (false, s)

/-- An exponent part in full: nothing, or a mark and at least one digit. -/
def readExponent : List Char → Option Int
  | [] => some 0
  | c :: s =>
    if c = 'e' || c = 'E' then
      let (negative, digits) := takeSign s
      if digits.isEmpty || !digits.all Char.isDigit then none
      else if negative then some (-(digitsValue digits)) else some (digitsValue digits)
    else none

/-- A number without a sign: digits, of which the point may stand before,
between or behind, and an exponent. -/
def readUnsigned (negative : Bool) (s : List Char) : Option Binary64 :=
  let whole := s.takeWhile Char.isDigit
  let rest := s.dropWhile Char.isDigit
  let (fraction, rest) := match rest with
    | '.' :: r => (r.takeWhile Char.isDigit, r.dropWhile Char.isDigit)
    | r => ([], r)
  if whole.isEmpty && fraction.isEmpty then none
  else (readExponent rest).map fun e =>
    ofDecimal negative (digitsValue (whole ++ fraction)) (e - fraction.length)

/-- A decimal number with an optional sign. -/
def read? (s : List Char) : Option Binary64 :=
  let (negative, rest) := takeSign s
  readUnsigned negative rest

/-! ## Writing -/

/-- Whether `num / den` lies among the ratios that round to the number whose
parts are `m` and `q`; the ends count if `m` is even. -/
def roundsBack (m : Nat) (q : Int) (num den : Nat) : Bool :=
  -- Four times the significand, so that half and quarter places are whole.
  let low := if m = Word.size 52 && q > -1074 then 4 * m - 1 else 4 * m - 2
  let high := 4 * m + 2
  let (n, d) := scaleDown num den (q - 2)
  if m % 2 = 0 then low * d ≤ n && n ≤ high * d else low * d < n && n < high * d

/-- A decimal grid point: a significand times a power of ten, as a ratio. -/
def gridRatio (significand : Nat) (exponent : Int) : Nat × Nat :=
  if 0 ≤ exponent then (significand * tenTo exponent.toNat, 1)
  else (significand, tenTo (-exponent).toNat)

/-- The point nearest to the number on the grid of the power of ten given, if
it rounds back; of the two neighbours the nearer is tried first. -/
def nearestOnGrid (x : Binary64) (exponent : Int) : Option Nat :=
  let (num, den) := x.ratio
  let (n, d) := if 0 ≤ exponent then (num, den * tenTo exponent.toNat)
    else (num * tenTo (-exponent).toNat, den)
  let below := n / d
  let (first, second) := if 2 * (n % d) ≤ d then (below, below + 1) else (below + 1, below)
  let (m, q) := x.parts
  [first, second].find? fun k => roundsBack m q (gridRatio k exponent).1 (gridRatio k exponent).2

/-- The power of ten of the first digit of `num / den`. -/
def leadingPlace (num den : Nat) : Int :=
  let guess := Int.ofNat (digitCount num) - Int.ofNat (digitCount den)
  let atLeast (e : Int) : Bool :=
    let (n, d) := gridRatio 1 e
    n * den ≤ num * d
  if atLeast guess then guess else guess - 1

/-- The fewest digits that read back, as a significand and a power of ten. -/
def shortest (x : Binary64) : Nat × Int :=
  let (num, den) := x.ratio
  let top := leadingPlace num den
  let tries := (List.range 17).filterMap fun (i : Nat) =>
    (nearestOnGrid x (top - i)).map fun k => (k, top - (i : Int))
  tries.headD (0, 0)

/-- A significand times a power of ten, written without an exponent. -/
def positional (significand : Nat) (exponent : Int) : List Char :=
  let digits := Nat.toDigits 10 significand
  if 0 ≤ exponent then digits ++ List.replicate exponent.toNat '0'
  else
    let places := (-exponent).toNat
    if digits.length ≤ places then
      ['0', '.'] ++ List.replicate (places - digits.length) '0' ++ digits
    else digits.take (digits.length - places) ++ ['.'] ++ digits.drop (digits.length - places)

/-- A significand without the zeros at its end, which the power of ten takes. -/
def dropZeros (fuel significand : Nat) (exponent : Int) : Nat × Int :=
  match fuel with
  | 0 => (significand, exponent)
  | fuel + 1 =>
    if significand ≠ 0 ∧ significand % 10 = 0 then
      dropZeros fuel (significand / 10) (exponent + 1)
    else (significand, exponent)

/-- The number in the fewest digits that read back, without an exponent. -/
def text (x : Binary64) : String :=
  if x.isNaN then "NaN"
  else
    let sign := if x.isNegative then "-" else ""
    if !x.isFinite then sign ++ "inf"
    else if x.isZero then sign ++ "0"
    else
      let (k, e) := x.shortest
      let (k, e) := dropZeros 20 k e
      sign ++ String.ofList (positional k e)

/-- The bits in hexadecimal, sixteen digits. -/
def hex (x : Binary64) : String :=
  let digits := Nat.toDigits 16 x.bits.toNat
  String.ofList (List.replicate (16 - digits.length) '0' ++ digits)

end TelemetrySidecar.Binary64
