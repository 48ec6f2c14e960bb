/-
  UTF-8

  Octets are read as characters, one ill-formed run at a time where they are
  none: a run is the longest start of some character's octets, so each run
  stands for one replacement character.
-/

namespace TelemetrySidecar.Text

/-- What a sequence of octets reads as: a character, or an ill-formed run. -/
abbrev Glyph := Option Char

/-- A character begun: how many octets it still owes, between which bounds the
next one lies, and its value so far. -/
structure Owed where
  count : Nat
  low : Nat
  high : Nat
  value : Nat

/-- What the first octet of a longer character owes; `none` if no character
begins with it. -/
def Owed.ofLead (b : Nat) : Option Owed :=
  if b < 0xC2 then none
  else if b ≤ 0xDF then some ⟨1, 0x80, 0xBF, b - 0xC0⟩
  else if b = 0xE0 then some ⟨2, 0xA0, 0xBF, 0⟩
  else if b = 0xED then some ⟨2, 0x80, 0x9F, 0xD⟩
  else if b ≤ 0xEF then some ⟨2, 0x80, 0xBF, b - 0xE0⟩
  else if b = 0xF0 then some ⟨3, 0x90, 0xBF, 0⟩
  else if b ≤ 0xF3 then some ⟨3, 0x80, 0xBF, b - 0xF0⟩
  else if b = 0xF4 then some ⟨3, 0x80, 0x8F, 4⟩
  else none

/-- The octets read from between two characters (`none`) or within one. -/
def glyphsFrom : Option Owed → List UInt8 → List Glyph
  | none, [] => []
  | some _, [] => [none]
  | none, b :: rest =>
    if b.toNat < 0x80 then some (Char.ofNat b.toNat) :: glyphsFrom none rest
    else match Owed.ofLead b.toNat with
      | none => none :: glyphsFrom none rest
      | some o => glyphsFrom (some o) rest
  | some o, b :: rest =>
    if o.low ≤ b.toNat ∧ b.toNat ≤ o.high then
      let value := o.value * 64 + (b.toNat - 0x80)
      if o.count ≤ 1 then some (Char.ofNat value) :: glyphsFrom none rest
      else glyphsFrom (some ⟨o.count - 1, 0x80, 0xBF, value⟩) rest
    else if b.toNat < 0x80 then none :: some (Char.ofNat b.toNat) :: glyphsFrom none rest
    else match Owed.ofLead b.toNat with
      | none => none :: none :: glyphsFrom none rest
      | some o' => none :: glyphsFrom (some o') rest

/-- The octets as characters and ill-formed runs. -/
def glyphs (octets : List UInt8) : List Glyph := glyphsFrom none octets

/-- The characters of well-formed octets. -/
def decode? (octets : List UInt8) : Option (List Char) := (glyphs octets).mapM id

/-- The characters, with U+FFFD for each ill-formed run. -/
def decodeLossy (octets : List UInt8) : List Char := (glyphs octets).map (·.getD '\uFFFD')

/-- The octets of a string. -/
def encode (s : String) : List UInt8 := s.toUTF8.toList

end TelemetrySidecar.Text
