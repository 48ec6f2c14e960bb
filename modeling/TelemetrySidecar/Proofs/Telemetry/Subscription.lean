import Mathlib.Data.List.TakeWhile
import TelemetrySidecar.Proofs.Json.Record
import TelemetrySidecar.Proofs.Json.Written
import TelemetrySidecar.Telemetry.Subscription

/-
  Subscriptions read back

  What is proved: natural numbers below a bound are read from their digits
  (`Json.Tree.natBelow_toString`), so every subscription is read back from its text,
  whatever its version, types, limits and address (`Subscription.ofText_value_toText`).
-/

namespace TelemetrySidecar

namespace Json

/-! ## Numbers as they are written -/

theorem le_ofDigitChars (cs : List Char) (n : Nat) : n ≤ Nat.ofDigitChars 10 cs n := by
  rw [Nat.ofDigitChars_eq_ofDigitChars_zero]
  have scaled : n ≤ 10 ^ cs.length * n := Nat.le_mul_of_pos_left n (Nat.pow_pos (by decide))
  omega

/-- Digits are gathered to their end if their number fits. -/
theorem Number.gather_eq {cs : List Char} : ∀ {n : Nat},
    Nat.ofDigitChars 10 cs n < Word.size 64 → gather n cs = (Nat.ofDigitChars 10 cs n, []) := by
  induction cs with
  | nil =>
    intro n _
    rfl
  | cons c cs ih =>
    intro n fits
    rw [Nat.ofDigitChars_cons] at fits ⊢
    have one : 10 * n + (c.toNat - '0'.toNat) < Word.size 64 :=
      Nat.lt_of_le_of_lt (le_ofDigitChars _ _) fits
    rw [gather, if_pos one, ih fits]

theorem Number.ofDigits_toString {n : Nat} (fits : n < Word.size 64) :
    ofDigits (toString (Int.ofNat n)).toList = some (.int n) := by
  have digits : ∀ c ∈ Nat.toDigits 10 n, c.isDigit = true :=
    fun c hc => Nat.isDigit_of_mem_toDigits (by decide) (by decide) hc
  have parts : Parts.ofDigits (Nat.toDigits 10 n) = ⟨false, Nat.toDigits 10 n, none, none⟩ := by
    have whole : (Nat.toDigits 10 n).takeWhile Char.isDigit = Nat.toDigits 10 n :=
      List.takeWhile_eq_self_iff.mpr digits
    have left : (Nat.toDigits 10 n).dropWhile Char.isDigit = [] :=
      List.dropWhile_eq_nil_iff.mpr digits
    unfold Parts.ofDigits
    split
    rename_i negative s unsigned
    obtain ⟨rfl, rfl⟩ : negative = false ∧ s = Nat.toDigits 10 n := by
      split at unsigned
      · rename_i minus
        exact absurd rfl (digits_ne_minus (n := n) (minus ▸ List.mem_cons_self))
      · cases unsigned
        exact ⟨rfl, rfl⟩
    simp only [whole, left]
  rw [toList_toString_natCast, ofDigits, parts]
  simp [gather_eq (n := 0) (by rw [Nat.ofDigitChars_ten_toDigits]; exact fits),
    Nat.ofDigitChars_ten_toDigits]

/-- A natural number below a bound is read from its digits. -/
theorem Tree.natBelow_toString {bound n : Nat} (below : n < bound) (fits : bound ≤ Word.size 64) :
    natBelow bound (.number (toString (Int.ofNat n)).toList) = .ok n := by
  rw [natBelow, Number.ofDigits_toString (Nat.lt_of_lt_of_le below fits)]
  simp [below]

end Json

open Json

/-! ## Subscriptions as they are written -/

theorem Buffering.read_asTree (depth : Nat) (b : Buffering) :
    Buffering.read (depth + 1) b.value.asTree = .ok b := by
  have reads (n : UInt32) : (Tree.natBelow (Word.size 32)
      (.number (toString (Int.ofNat n.toNat)).toList)).map UInt32.ofNat = .ok n := by
    have below : n.toNat < Word.size 32 := n.toNat_lt
    rw [Tree.natBelow_toString below (by decide)]
    simp [Except.map]
  have written : b.value.asTree = .object (named
      [("maxItems", .number (toString (Int.ofNat b.maxItems.toNat)).toList),
        ("maxBytes", .number (toString (Int.ofNat b.maxBytes.toNat)).toList),
        ("timeoutMs", .number (toString (Int.ofNat b.timeoutMs.toNat)).toList)]) .closed := rfl
  rw [written]
  exact Tree.record_named
    [("maxItems", b.maxItems), ("maxBytes", b.maxBytes), ("timeoutMs", b.timeoutMs)]
    rfl (by decide)
    (.cons ⟨rfl, reads b.maxItems⟩ (.cons ⟨rfl, reads b.maxBytes⟩
      (.cons ⟨rfl, reads b.timeoutMs⟩ .nil))) rfl

theorem Subscription.readDestination_asTree (depth : Nat) (uri : String) :
    readDestination (depth + 1) (destinationValue uri).asTree = .ok uri := by
  have written : (destinationValue uri).asTree = .object (named
      [("protocol", .text (.ok "HTTP".toList)), ("method", .text (.ok "POST".toList)),
        ("encoding", .text (.ok "JSON".toList)), ("URI", .text (.ok uri.toList))]) .closed := rfl
  rw [written]
  have address : Tree.string (.text (.ok uri.toList)) = .ok uri := by simp [Tree.string]
  exact Tree.record_named (fixedParts ++ [("URI", uri)]) rfl (by decide)
    (.cons ⟨rfl, rfl⟩ (.cons ⟨rfl, rfl⟩ (.cons ⟨rfl, rfl⟩ (.cons ⟨rfl, address⟩ .nil)))) rfl

theorem Subscription.readTypes_asTree (depth : Nat) (types : List TelemetryType) :
    Tree.items (depth + 1) (fun depth t => t.oneOf depth TelemetryType.ofName?)
      (Value.list (types.map fun t => .text t.name)).asTree = .ok types := by
  rw [Tree.items_eq_ok_iff]
  refine ⟨_, rfl, ?_⟩
  induction types with
  | nil => exact .nil
  | cons type types ih =>
    have name : (Tree.text (.ok type.name.toList)).oneOf depth TelemetryType.ofName? =
        .ok type := by
      cases type with
      | platform | function | extension => rfl
    exact .cons name ih

/-- A subscription is read from what it is written as. -/
theorem Subscription.read_asTree (depth : Nat) (s : Subscription) :
    read (depth + 2) s.value.asTree = .ok s := by
  have written : s.value.asTree = .object (named
      [("schemaVersion", .text (.ok s.schemaVersion.toList)),
        ("types", (Value.list (s.types.map fun t => .text t.name)).asTree),
        ("buffering", s.buffering.value.asTree),
        ("destination", (destinationValue s.uri).asTree)]) .closed := rfl
  have version : Field.read (depth + 1) "schemaVersion" (.text (.ok s.schemaVersion.toList)) =
      .ok (.schemaVersion s.schemaVersion) := by
    simp [Field.read, Tree.string, Except.map]
  have types : Field.read (depth + 1) "types"
      (Value.list (s.types.map fun t => .text t.name)).asTree = .ok (.types s.types) := by
    simp [Field.read, readTypes_asTree, Except.map]
  have buffering : Field.read (depth + 1) "buffering" s.buffering.value.asTree =
      .ok (.buffering s.buffering) := by
    simp [Field.read, Buffering.read_asTree, Except.map]
  have destination : Field.read (depth + 1) "destination" (destinationValue s.uri).asTree =
      .ok (.destination s.uri) := by
    simp [Field.read, readDestination_asTree, Except.map]
  rw [written]
  exact Tree.record_named
    [("schemaVersion", .schemaVersion s.schemaVersion), ("types", .types s.types),
      ("buffering", .buffering s.buffering), ("destination", .destination s.uri)]
    rfl (by decide)
    (.cons ⟨rfl, version⟩ (.cons ⟨rfl, types⟩ (.cons ⟨rfl, buffering⟩
      (.cons ⟨rfl, destination⟩ .nil)))) rfl

/-- A subscription is read back from its text. -/
theorem Subscription.ofText_value_toText (s : Subscription) : ofText s.value.toText = .ok s := by
  rw [ofText, Value.ofText_toText, Document.read_eq_ok_iff]
  exact ⟨read_asTree _ s, rfl⟩

end TelemetrySidecar
