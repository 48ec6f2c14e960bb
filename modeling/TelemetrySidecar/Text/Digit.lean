/-
  Digits

  The values of digits up to base sixteen, and the numbers that rows of them
  write: each further digit counts once, and all before it the base times as
  much (`numeral_append`).
-/

namespace TelemetrySidecar.Text

/-- The value of a digit, of either case. -/
def digitValue? (c : Char) : Option Nat :=
  if c.isDigit then some (c.toNat - '0'.toNat)
  else if 'a' ≤ c && c ≤ 'f' then some (c.toNat - 'a'.toNat + 10)
  else if 'A' ≤ c && c ≤ 'F' then some (c.toNat - 'A'.toNat + 10)
  else none

/-- Whether a character is a digit of a base. -/
def isDigitOf (base : Nat) (c : Char) : Bool := (digitValue? c).any (· < base)

/-- The number that digits write in a base. -/
def numeral (base : Nat) (digits : List Char) : Nat :=
  digits.foldl (fun n c => base * n + (digitValue? c).getD 0) 0

/-- The number that a text of digits alone, at least one, writes in a base. -/
def numeral? (base : Nat) (s : List Char) : Option Nat :=
  if !s.isEmpty && s.all (isDigitOf base) then some (numeral base s) else none

/-- The character whose number a text begins with, in so many hexadecimal
digits, and what follows them. -/
def takeCodePoint (count : Nat) (s : List Char) : Option (Char × List Char) :=
  let digits := s.take count
  let code := numeral 16 digits
  if digits.length = count && digits.all (isDigitOf 16) && code.isValidChar then
    some (Char.ofNat code, s.drop count)
  else none

theorem numeral_append (base : Nat) (digits : List Char) (c : Char) :
    numeral base (digits ++ [c]) = base * numeral base digits + (digitValue? c).getD 0 := by
  simp [numeral]

end TelemetrySidecar.Text
