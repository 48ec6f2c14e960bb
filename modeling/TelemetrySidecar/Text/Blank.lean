/-
  Blank characters

  The characters Unicode calls white space, and text without them at its ends.
-/

namespace TelemetrySidecar.Text

/-- The property White_Space. -/
def isBlank (c : Char) : Bool :=
  let n := c.toNat
  (0x09 ≤ n && n ≤ 0x0D) || n == 0x20 || n == 0x85 || n == 0xA0 || n == 0x1680
    || (0x2000 ≤ n && n ≤ 0x200A) || n == 0x2028 || n == 0x2029 || n == 0x202F
    || n == 0x205F || n == 0x3000

/-- The text from its first character that is not blank to its last. -/
def trim (s : List Char) : List Char :=
  ((s.dropWhile isBlank).reverse.dropWhile isBlank).reverse

/-- Text of blanks alone. -/
def allBlank (s : List Char) : Bool := s.all isBlank

/-- `trim` on a string. -/
def trimmed (s : String) : String := String.ofList (trim s.toList)

end TelemetrySidecar.Text
