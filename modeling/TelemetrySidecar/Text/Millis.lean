/-
  Spans of time in text

  A span is written with the largest unit that fits once: whole seconds with
  the rest as a fraction without zeros at its end, or milliseconds. The empty
  span has the smallest unit.
-/

namespace TelemetrySidecar.Text

/-- The fraction of a second that some milliseconds are. -/
def millisFraction (ms : Nat) : List Char :=
  match ms with
  | 0 => []
  | _ =>
    let digits := Nat.toDigits 10 ms
    let digits := List.replicate (3 - digits.length) '0' ++ digits
    '.' :: (digits.reverse.dropWhile (· == '0')).reverse

/-- A span of milliseconds. -/
def span (ms : Nat) : String :=
  if ms = 0 then "0ns"
  else if ms < 1000 then toString ms ++ "ms"
  else toString (ms / 1000) ++ String.ofList (millisFraction (ms % 1000)) ++ "s"

end TelemetrySidecar.Text
