import Mathlib.Data.List.Forall2
import TelemetrySidecar.Telemetry.Event

/-
  What a batch is written as

  The octets of a batch are one list, and its items in turn are the events of the
  batch (`Batch.DescribedBy`).

  What is proved: octets are read as a batch if and only if they describe it
  (`Batch.ofOctets_eq_ok_iff`), so octets of which any item is no event are refused
  as a whole (`Batch.ofOctets_eq_error_iff`).
-/

namespace TelemetrySidecar

/-! ## Reading one thing after the other -/

section

variable {ε α β : Type}

theorem bind_eq_ok_iff {x : Except ε α} {f : α → Except ε β} {b : β} :
    x >>= f = .ok b ↔ ∃ a, x = .ok a ∧ f a = .ok b := by
  cases x with
  | error e => simp [bind, Except.bind]
  | ok a => simp [bind, Except.bind]

theorem pure_eq_ok_iff {a b : α} : (pure a : Except ε α) = .ok b ↔ b = a := by
  constructor
  · intro h
    cases h
    rfl
  · rintro rfl
    rfl

theorem mapError_eq_ok_iff {ε' : Type} {x : Except ε α} {f : ε → ε'} {a : α} :
    x.mapError f = .ok a ↔ x = .ok a := by
  cases x with
  | error e => simp [Except.mapError]
  | ok b => simp [Except.mapError]

/-- Items are read in turn if and only if each of them is read. -/
theorem mapM_eq_ok_iff {read : α → Except ε β} {xs : List α} :
    ∀ {ys : List β}, xs.mapM read = .ok ys ↔ List.Forall₂ (fun x y => read x = .ok y) xs ys := by
  induction xs with
  | nil =>
    intro ys
    rw [List.mapM_nil, pure_eq_ok_iff, List.forall₂_nil_left_iff]
  | cons x xs ih =>
    intro ys
    rw [List.mapM_cons, bind_eq_ok_iff, List.forall₂_cons_left_iff]
    simp only [bind_eq_ok_iff, pure_eq_ok_iff, ih, exists_and_left]

end

namespace Json

theorem Document.read_eq_ok_iff {α : Type} {read : Nat → Tree → Except Fault α} {d : Document}
    {a : α} :
    Document.read read d = .ok a ↔ read maxDepth d.value = .ok a ∧ d.trailing = false := by
  unfold Document.read
  rw [bind_eq_ok_iff]
  cases d.trailing with
  | true => simp [throw, throwThe, MonadExceptOf.throw]
  | false => simp [pure_eq_ok_iff]

theorem Ending.take_eq_ok_iff {ending : Ending} {u : Unit} :
    ending.take = .ok u ↔ ending = .closed := by
  cases ending with
  | closed => simp [take]
  | broken => simp [take]

/-- A tree is read as items if and only if it is a closed list and each of its items
is read. -/
theorem Tree.items_eq_ok_iff {α : Type} {depth : Nat} {read : Nat → Tree → Except Fault α}
    {t : Tree} {values : List α} :
    t.items (depth + 1) read = .ok values ↔
      ∃ items, t = .list items .closed ∧
        List.Forall₂ (fun item value => read depth item = .ok value) items values := by
  cases t with
  | list trees ending =>
    simp only [items, deeper, bind_eq_ok_iff, pure_eq_ok_iff, mapM_eq_ok_iff,
      Ending.take_eq_ok_iff, Except.ok.injEq]
    constructor
    · rintro ⟨_, rfl, _, described, _, rfl, rfl⟩
      exact ⟨trees, rfl, described⟩
    · rintro ⟨_, heq, described⟩
      cases heq
      exact ⟨depth, rfl, values, described, (), rfl, rfl⟩
  | null | bool | number | text | broken | object => simp [items]

end Json

namespace Batch

/-- Octets describe a batch if they are one list, with nothing after it, and its
items in turn are the events of the batch. -/
def DescribedBy (batch : Batch) (octets : List UInt8) : Prop :=
  ∃ items, Json.Document.ofOctets octets = ⟨.list items .closed, false⟩ ∧
    List.Forall₂ (fun item event => TelemetryEvent.read (Json.maxDepth - 1) item = .ok event)
      items batch

theorem ofOctets_eq_ok_iff {octets : List UInt8} {batch : Batch} :
    ofOctets octets = .ok batch ↔ batch.DescribedBy octets := by
  have depth : Json.maxDepth = Json.maxDepth - 1 + 1 := rfl
  unfold ofOctets read DescribedBy
  rw [Json.Document.read_eq_ok_iff, depth, Json.Tree.items_eq_ok_iff]
  generalize Json.Document.ofOctets octets = d
  obtain ⟨value, trailing⟩ := d
  simp only [Json.Document.mk.injEq]
  constructor
  · rintro ⟨⟨items, rfl, described⟩, rfl⟩
    exact ⟨items, ⟨rfl, rfl⟩, described⟩
  · rintro ⟨items, ⟨rfl, rfl⟩, described⟩
    exact ⟨⟨items, rfl, described⟩, rfl⟩

theorem ofOctets_eq_error_iff {octets : List UInt8} :
    (∃ fault, ofOctets octets = .error fault) ↔ ∀ batch : Batch, ¬ batch.DescribedBy octets := by
  simp only [← ofOctets_eq_ok_iff]
  cases ofOctets octets with
  | ok batch => simp
  | error fault => simp

end Batch

end TelemetrySidecar
