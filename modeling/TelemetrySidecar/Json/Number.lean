import TelemetrySidecar.Binary64.Basic
import TelemetrySidecar.Json.Tree
import TelemetrySidecar.Word

/-
  The value of a JSON number

  Digits are gathered into 64 bits; once the next digit does not fit, the digits
  left count only for the power of ten. A number written as an integer that fits
  is one; any other is the gathered significand, rounded, times or divided by
  the power of ten, rounded again. So it need not be the number nearest to the
  digits.
-/

namespace TelemetrySidecar.Json

/-- A number: an integer of 64 bits, with or without a sign, or else a binary64
number. -/
inductive Number where
  | int (value : Int)
  | float (value : Binary64)
  deriving DecidableEq, Repr

namespace Number

/-- The digits gathered as long as they fit into 64 bits, and those left. -/
def gather : Nat → List Char → Nat × List Char
  | n, [] => (n, [])
  | n, c :: rest =>
    let more := 10 * n + (c.toNat - '0'.toNat)
    if more < Word.size 64 then gather more rest else (n, c :: rest)

/-- The parts of a number as it is written. -/
structure Parts where
  negative : Bool
  whole : List Char
  fraction : Option (List Char)
  /-- Whether the exponent is negative, and its digits. -/
  exponent : Option (Bool × List Char)

def Parts.ofDigits (s : List Char) : Parts :=
  let (negative, s) := match s with
    | '-' :: s => (true, s)
    | s => (false, s)
  let whole := s.takeWhile Char.isDigit
  let s := s.dropWhile Char.isDigit
  let (fraction, s) := match s with
    | '.' :: s => (some (s.takeWhile Char.isDigit), s.dropWhile Char.isDigit)
    | s => (none, s)
  let exponent := match s with
    | _ :: '-' :: digits => some (true, digits)
    | _ :: '+' :: digits => some (false, digits)
    | _ :: digits => some (false, digits)
    | [] => none
  ⟨negative, whole, fraction, exponent⟩

/-- Ten to a power that a finite number can be. -/
def power (n : Nat) : Binary64 := Binary64.ofDecimal false 1 n

/-- The greatest power of ten that is finite. -/
def maxPower : Nat := 308

/-- `x` times ten to the power given; `none` if that is beyond all numbers. A
division by more than the greatest power takes several steps. -/
def scale : Nat → Binary64 → Int → Option Binary64
  | 0, x, _ => some x
  | fuel + 1, x, exponent =>
    if exponent.natAbs ≤ maxPower then
      let p := power exponent.natAbs
      if 0 ≤ exponent then
        let y := x.mul p
        if y.isFinite then some y else none
      else some (x.div p)
    else if x.isZero then some x
    else if 0 ≤ exponent then none
    else scale fuel (x.div (power maxPower)) (exponent + maxPower)

/-- The greatest exponent that is counted exactly. -/
def maxExponent : Nat := Word.size 31 - 1

/-- The number that digits give; `none` if it is beyond all numbers. -/
def ofDigits (s : List Char) : Option Number :=
  let parts := Parts.ofDigits s
  let (n, left) := gather 0 parts.whole
  let isInteger := parts.fraction.isNone && parts.exponent.isNone && left.isEmpty
  if isInteger && !parts.negative then some (.int n)
  else if isInteger && 0 < n && n ≤ Word.size 63 then some (.int (-n))
  else
    let fraction := parts.fraction.getD []
    let (n, dropped) := gather n fraction
    let start : Int := left.length - (fraction.length - dropped.length)
    let x := Binary64.ofRatio false n 1
    let value? := match parts.exponent with
      | none => scale 8 x start
      | some (negative, digits) =>
        let (e, left) := gather 0 digits
        if left.isEmpty && e ≤ maxExponent then
          scale 8 x (if negative then start - e else start + e)
        else if n = 0 || negative then some (Binary64.zero false)
        else none
    value?.map fun x => .float (x.withSign parts.negative)

end Number

end TelemetrySidecar.Json
