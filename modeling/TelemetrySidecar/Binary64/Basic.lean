import TelemetrySidecar.Word

/-
  Binary64 numbers

  A number is its 64 bits. Rounding works on exact ratios of natural numbers:
  the significand of 53 bits nearest to the ratio, of two nearest the even one.
-/

namespace TelemetrySidecar

/-- The bits of a double-precision number. -/
structure Binary64 where
  bits : UInt64
  deriving DecidableEq, Repr

namespace Binary64

/-- The bits of positive infinity, which are also the least bits, sign apart,
of a number that is not finite. -/
def infinityBits : Nat := 0x7ff * Word.size 52

/-- A number from its sign and the bits below the sign. -/
def ofMagnitude (negative : Bool) (bits : Nat) : Binary64 :=
  ⟨UInt64.ofNat (if negative then Word.size 63 + bits else bits)⟩

def infinity (negative : Bool) : Binary64 := ofMagnitude negative infinityBits

def zero (negative : Bool) : Binary64 := ofMagnitude negative 0

/-- The one NaN that is ever written. -/
def nan : Binary64 := ⟨0x7ff8000000000000⟩

/-- The bits below the sign. -/
def magnitude (x : Binary64) : Nat := x.bits.toNat % Word.size 63

def isNegative (x : Binary64) : Bool := x.bits.toNat ≥ Word.size 63

def isNaN (x : Binary64) : Bool := x.magnitude > infinityBits

def isFinite (x : Binary64) : Bool := x.magnitude < infinityBits

def isZero (x : Binary64) : Bool := x.magnitude == 0

/-- Equality of numbers: both zeros are equal, and every NaN is. -/
def same (x y : Binary64) : Bool :=
  if x.isNaN || y.isNaN then x.isNaN && y.isNaN
  else x.bits == y.bits || (x.isZero && y.isZero)

/-- The significand and the power of two whose product is the finite number,
sign apart. -/
def parts (x : Binary64) : Nat × Int :=
  let field := x.magnitude / Word.size 52
  let fraction := x.magnitude % Word.size 52
  if field = 0 then (fraction, -1074) else (Word.size 52 + fraction, Int.ofNat field - 1075)

/-- `num / den` to the nearest natural number, a half to the even one. -/
def roundHalfEven (num den : Nat) : Nat :=
  let floor := num / den
  let twice := 2 * (num % den)
  if twice > den || (twice == den && floor % 2 == 1) then floor + 1 else floor

/-- `num / den / 2 ^ e` as a ratio of natural numbers. -/
def scaleDown (num den : Nat) (e : Int) : Nat × Nat :=
  if 0 ≤ e then (num, den <<< e.toNat) else (num <<< (-e).toNat, den)

/-- The power of two of the last place of a number near `num / den`. -/
def lastPlace (num den : Nat) : Int :=
  let guess := Int.ofNat num.log2 - Int.ofNat den.log2 - 52
  let (n, d) := scaleDown num den guess
  max (if n / d < Word.size 52 then guess - 1 else guess) (-1074)

/-- The number nearest to `num / den`; a ratio beyond all finite numbers is
infinite. -/
def ofRatio (negative : Bool) (num den : Nat) : Binary64 :=
  if num = 0 then zero negative
  else
    let e := lastPlace num den
    let (n, d) := scaleDown num den e
    -- A significand rounded up to `2 ^ 53` carries into the exponent field.
    ofMagnitude negative (min ((e + 1074).toNat * Word.size 52 + roundHalfEven n d) infinityBits)

/-- Ten to a power. -/
def tenTo (n : Nat) : Nat := Nat.pow 10 n

/-- The count of decimal digits, at least one. -/
def digitCount (n : Nat) : Nat := (Nat.toDigits 10 n).length

/-- The number nearest to `significand * 10 ^ exponent`. -/
def ofDecimal (negative : Bool) (significand : Nat) (exponent : Int) : Binary64 :=
  let size := Int.ofNat (digitCount significand) + exponent
  if significand = 0 || size < -400 then zero negative
  else if size > 400 then infinity negative
  else if 0 ≤ exponent then ofRatio negative (significand * tenTo exponent.toNat) 1
  else ofRatio negative significand (tenTo (-exponent).toNat)

/-- The exact ratio of a finite number, sign apart. -/
def ratio (x : Binary64) : Nat × Nat :=
  let (m, q) := x.parts
  if 0 ≤ q then (m <<< q.toNat, 1) else (m, 1 <<< (-q).toNat)

/-- The product of two finite numbers that are not negative. -/
def mul (x y : Binary64) : Binary64 :=
  ofRatio false (x.ratio.1 * y.ratio.1) (x.ratio.2 * y.ratio.2)

/-- The quotient of two finite numbers that are not negative, the second not
zero. -/
def div (x y : Binary64) : Binary64 :=
  ofRatio false (x.ratio.1 * y.ratio.2) (x.ratio.2 * y.ratio.1)

/-- The number with the sign given. -/
def withSign (negative : Bool) (x : Binary64) : Binary64 := ofMagnitude negative x.magnitude

end Binary64

end TelemetrySidecar
