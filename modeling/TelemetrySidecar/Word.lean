/-
  Machine words

  How many values a word has, and which integers are among them.
-/

namespace TelemetrySidecar.Word

/-- The number of values of a word of so many bits. -/
def size (bits : Nat) : Nat := 1 <<< bits

/-- Whether an integer fits a word with a sign. -/
def fitsSigned (bits : Nat) (i : Int) : Bool :=
  -(size (bits - 1) : Int) ≤ i && i < size (bits - 1)

/-- Whether an integer fits a word without a sign. -/
def fitsUnsigned (bits : Nat) (i : Int) : Bool := 0 ≤ i && i < size bits

end TelemetrySidecar.Word
