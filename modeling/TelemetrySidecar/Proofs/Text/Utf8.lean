import TelemetrySidecar.Text.Utf8

/-
  The octets of a string

  What is proved: a string is encoded character by character
  (`Text.encode_eq_flatMap`), and characters below 128 as one octet each, so text made
  of such octets is encoded as those octets (`Text.encode_of_forall_lt`), and text of
  such characters as their codes (`Text.encode_of_forall_char_lt`).
-/

namespace TelemetrySidecar.Text

theorem toList_loop (bytes : ByteArray) (i : Nat) (read : List UInt8) :
    ByteArray.toList.loop bytes i read = read.reverse ++ bytes.data.toList.drop i := by
  fun_induction ByteArray.toList.loop bytes i read with
  | case1 i read more ih =>
    have inside : i < bytes.data.toList.length := by simpa using more
    rw [ih, List.drop_eq_getElem_cons inside]
    simp [ByteArray.get!, more]
  | case2 i read done =>
    have outside : bytes.data.size ≤ i := Nat.not_lt.mp done
    rw [List.drop_eq_nil_of_le (by simpa using outside), List.append_nil]

/-- A string is encoded character by character. -/
theorem encode_eq_flatMap (s : String) : encode s = s.toList.flatMap String.utf8EncodeChar := by
  have encoded : s.toByteArray = s.toList.utf8Encode := by
    rw [← String.toByteArray_ofList, String.ofList_toList]
  rw [encode, String.toUTF8, encoded, List.utf8Encode, ByteArray.toList, toList_loop]
  simp

theorem utf8EncodeChar_of_lt {octet : UInt8} (small : octet.toNat < 128) :
    String.utf8EncodeChar (Char.ofNat octet.toNat) = [octet] := by
  have value : (Char.ofNat octet.toNat).val.toNat = octet.toNat := by
    rw [Char.ofNat, dif_pos (Or.inl (by omega))]
    rfl
  have within : octet.toNat ≤ 127 := by omega
  simp [String.utf8EncodeChar, value, within]

/-- Text of small octets is encoded as those octets. -/
theorem encode_of_forall_lt {octets : List UInt8} (small : ∀ octet ∈ octets, octet.toNat < 128) :
    encode (String.ofList (octets.map fun octet => Char.ofNat octet.toNat)) = octets := by
  rw [encode_eq_flatMap, String.toList_ofList, List.flatMap_map]
  induction octets with
  | nil => rfl
  | cons octet octets ih =>
    rw [List.forall_mem_cons] at small
    rw [List.flatMap_cons, utf8EncodeChar_of_lt small.1, ih small.2]
    rfl

theorem toNat_ofNat_of_lt {c : Char} (small : c.toNat < 128) :
    (UInt8.ofNat c.toNat).toNat = c.toNat :=
  UInt8.toNat_ofNat_of_lt (Nat.lt_trans small (by decide))

/-- Characters below 128 are read back from their codes. -/
theorem ofList_codes {s : String} (small : ∀ c ∈ s.toList, c.toNat < 128) :
    String.ofList ((s.toList.map fun c => UInt8.ofNat c.toNat).map
      fun octet => Char.ofNat octet.toNat) = s := by
  rw [List.map_map, List.map_congr_left (g := id), List.map_id, String.ofList_toList]
  intro c hc
  rw [Function.comp_apply, toNat_ofNat_of_lt (small c hc), Char.ofNat_toNat, id]

/-- Text of characters below 128 is encoded as their codes. -/
theorem encode_of_forall_char_lt {s : String} (small : ∀ c ∈ s.toList, c.toNat < 128) :
    encode s = s.toList.map fun c => UInt8.ofNat c.toNat := by
  have codes : ∀ octet ∈ s.toList.map fun c => UInt8.ofNat c.toNat, octet.toNat < 128 := by
    rw [List.forall_mem_map]
    intro c hc
    rw [toNat_ofNat_of_lt (small c hc)]
    exact small c hc
  rw [← encode_of_forall_lt codes, ofList_codes small]

end TelemetrySidecar.Text
