import TelemetrySidecar.Settings.Complaint
import Mathlib.Data.String.Basic
import Mathlib.Data.List.Induction
import Mathlib.Data.List.Nodup

/-
  Tables laid over tables

  A table whose keys rise, and all tables below it (`Ascending`), stays so when entries are
  put into it and when another is laid over it.

  What is proved: a table laid over another has under each key what the upper one gives,
  laid over what the lower one has there (`lookup_tableOver`), and along a path on which
  both have tables only (`Descends`) it gives what the upper one gives, or else the lower
  one (`reach?_laidOver`). So many tables laid one over another give at the end of a path
  what the highest gives that gives anything (`reach?_layers`).
-/

namespace TelemetrySidecar.Setting

open Settings (reach?)

/-- Whether the value is a table. -/
def isTable : Setting → Bool
  | table _ => true
  | _ => false

/-- The keys of a table rise, and so do those of every table below it. Tables in lists do
not matter: nothing is laid over them. -/
inductive Ascending : Setting → Prop where
  | table {entries : Table} (rising : entries.Pairwise (·.1 < ·.1))
      (inner : ∀ e ∈ entries, Ascending e.2) : Ascending (table entries)
  | leaf {v : Setting} (leaf : v.isTable = false) : Ascending v

variable {key k : String} {value v w : Setting} {t lower upper : Table} {old : Option Setting}

theorem exists_of_isTable (h : v.isTable = true) : ∃ entries, v = table entries := by
  cases v with
  | table entries => exact ⟨entries, rfl⟩
  | _ => cases h

theorem laidOver_leaf (old : Option Setting) (leaf : v.isTable = false) : laidOver old v = v := by
  cases v with
  | table entries => cases leaf
  | _ => rfl

theorem laidOver_none (v : Setting) : laidOver none v = v := by
  cases v <;> rfl

theorem laidOver_tables :
    laidOver (some (table lower)) (table upper) = table (tableOver lower upper) := rfl

theorem laidOver_over_leaf (leaf : w.isTable = false) (v : Setting) : laidOver (some w) v = v := by
  cases v with
  | table upper =>
    cases w with
    | table entries => cases leaf
    | _ => rfl
  | _ => rfl

theorem isTable_laidOver (h : v.isTable = true) : (laidOver old v).isTable = true := by
  obtain ⟨upper, rfl⟩ := exists_of_isTable h
  cases old with
  | none => rw [laidOver_none, h]
  | some lower => cases lower <;> rfl

/-! ## Looking up -/

theorem lookup_cons (k key : String) (value : Setting) (t : Table) :
    List.lookup k ((key, value) :: t) = if k = key then some value else t.lookup k := by
  by_cases same : k = key
  · simp [same]
  · have differs : (k == key) = false := by simpa using same
    simp [List.lookup_cons, same, differs]

theorem lookup_put : (t.put key value).lookup k = if k = key then some value else t.lookup k := by
  induction t with
  | nil => exact lookup_cons k key value []
  | cons e rest ih =>
    obtain ⟨head, first⟩ := e
    rw [Table.put]
    split
    · rename_i same
      subst same
      simp only [lookup_cons]
      split <;> rfl
    · split
      · exact lookup_cons k key value _
      · rename_i other _
        rw [lookup_cons, lookup_cons, ih]
        by_cases same : k = head
        · have differs : head ≠ key := fun h => other h.symm
          simp [same, differs]
        · simp [same]

theorem lookup_of_fresh (fresh : k ∉ t.map (·.1)) : t.lookup k = none := by
  rw [List.lookup_eq_none_iff]
  intro e he
  simp only [bne_iff_ne]
  intro same
  exact fresh (List.mem_map.mpr ⟨e, he, same.symm⟩)

theorem lookup_tableOver (distinct : (upper.map (·.1)).Nodup) :
    (tableOver lower upper).lookup k =
      ((upper.lookup k).map (laidOver (lower.lookup k))).or (lower.lookup k) := by
  induction upper generalizing lower with
  | nil => simp [tableOver]
  | cons e rest ih =>
    obtain ⟨key, value⟩ := e
    obtain ⟨fresh, distinct⟩ := List.nodup_cons.mp distinct
    rw [tableOver, ih distinct, lookup_put, lookup_cons]
    by_cases same : k = key
    · subst same
      have unlisted : List.lookup k rest = none := lookup_of_fresh fresh
      simp [unlisted]
    · simp [same]

theorem Ascending.nodup (h : Ascending (.table t)) : (t.map (·.1)).Nodup := by
  cases h with
  | table rising _ => exact List.pairwise_map.mpr (rising.imp fun below => ne_of_lt below)
  | leaf leaf => cases leaf

theorem Ascending.rising (h : Ascending (.table t)) : t.Pairwise (·.1 < ·.1) := by
  cases h with
  | table rising _ => exact rising
  | leaf leaf => cases leaf

theorem Ascending.inner (h : Ascending (.table t)) : ∀ e ∈ t, Ascending e.2 := by
  cases h with
  | table _ inner => exact inner
  | leaf leaf => cases leaf

theorem mem_of_lookup (h : t.lookup k = some v) : (k, v) ∈ t := by
  obtain ⟨before, after, rfl, _⟩ := List.lookup_eq_some_iff.mp h
  simp

theorem Ascending.of_lookup (h : Ascending (.table t)) (found : t.lookup k = some v) :
    Ascending v :=
  h.inner _ (mem_of_lookup found)

/-! ## Tables that rise -/

/-- The entries of a table after one was put into it. -/
theorem mem_put {e : String × Setting} (h : e ∈ t.put key value) : e = (key, value) ∨ e ∈ t := by
  induction t with
  | nil => simpa [Table.put] using h
  | cons head rest ih =>
    rw [Table.put] at h
    split at h
    · rcases List.mem_cons.mp h with rfl | h
      · exact .inl rfl
      · exact .inr (List.mem_cons_of_mem _ h)
    · split at h
      · exact List.mem_cons.mp h
      · rcases List.mem_cons.mp h with rfl | h
        · exact .inr List.mem_cons_self
        · exact (ih h).imp_right (List.mem_cons_of_mem _)

theorem pairwise_put (rising : t.Pairwise (·.1 < ·.1)) :
    (t.put key value).Pairwise (·.1 < ·.1) := by
  induction t with
  | nil => simp [Table.put]
  | cons head rest ih =>
    obtain ⟨above, rising'⟩ := List.pairwise_cons.mp rising
    rw [Table.put]
    split
    · rename_i same
      subst same
      exact List.pairwise_cons.mpr ⟨above, rising'⟩
    · rename_i other
      split
      · rename_i below
        refine List.pairwise_cons.mpr ⟨fun e he => ?_, rising⟩
        rcases List.mem_cons.mp he with rfl | he
        · exact below
        · exact lt_trans below (above e he)
      · rename_i beyond
        refine List.pairwise_cons.mpr ⟨fun e he => ?_, ih rising'⟩
        rcases mem_put he with rfl | he
        · exact lt_of_le_of_ne (le_of_not_gt beyond) (Ne.symm other)
        · exact above e he

theorem ascending_put (h : Ascending (.table t)) (hv : Ascending value) :
    Ascending (.table (t.put key value)) := by
  refine .table (pairwise_put h.rising) fun e he => ?_
  rcases mem_put he with rfl | he
  · exact hv
  · exact h.inner e he

theorem ascending_empty : Ascending (.table []) := .table .nil (by simp)

theorem ascending_of_leaves (rising : t.Pairwise (·.1 < ·.1))
    (leaves : ∀ e ∈ t, e.2.isTable = false) : Ascending (.table t) :=
  .table rising fun e he => .leaf (leaves e he)

theorem ascending_table_ofEntries {entries : List (String × Setting)}
    (h : ∀ e ∈ entries, Ascending e.2) : Ascending (.table (Table.ofEntries entries)) := by
  unfold Table.ofEntries
  suffices kept : ∀ t, Ascending (.table t) →
      Ascending (.table (entries.foldl (fun t e => Table.put e.1 e.2 t) t)) from
    kept [] ascending_empty
  induction entries with
  | nil => exact fun t ht => ht
  | cons e rest ih =>
    rw [List.forall_mem_cons] at h
    exact fun t ht => ih h.2 _ (ascending_put ht h.1)

theorem ascending_nested (h : Ascending v) : ∀ keys, Ascending (nested keys v)
  | [] => h
  | key :: rest => .table (List.pairwise_singleton _ _) (by simpa using ascending_nested h rest)

/-- Entries that are laid over one after the other keep a table ascending if each does. -/
theorem ascending_tableOver_of_each {entries : List (String × Setting)}
    (each : ∀ e ∈ entries, ∀ old : Option Setting, (∀ o, old = some o → Ascending o) →
      Ascending (laidOver old e.2)) :
    ∀ lower : Table, Ascending (.table lower) → Ascending (.table (tableOver lower entries)) := by
  induction entries with
  | nil =>
    intro lower hlower
    rwa [tableOver]
  | cons e rest ih =>
    intro lower hlower
    rw [List.forall_mem_cons] at each
    rw [tableOver]
    exact ih each.2 _ (ascending_put hlower (each.1 _ fun o found => hlower.of_lookup found))

theorem ascending_laidOver (h : Ascending v) :
    ∀ old : Option Setting, (∀ o, old = some o → Ascending o) → Ascending (laidOver old v) := by
  induction h with
  | leaf leaf =>
    intro old _
    rw [laidOver_leaf old leaf]
    exact .leaf leaf
  | @table upper rising inner ih =>
    -- Only over another table are the entries laid one by one.
    intro old hold
    cases old with
    | none =>
      rw [laidOver_none]
      exact .table rising inner
    | some lower =>
      cases hl : lower.isTable with
      | true =>
        obtain ⟨lower, rfl⟩ := exists_of_isTable hl
        rw [laidOver_tables]
        exact ascending_tableOver_of_each ih lower (hold _ rfl)
      | false =>
        rw [laidOver_over_leaf hl]
        exact .table rising inner

theorem ascending_tableOver (hlower : Ascending (.table lower))
    (hupper : Ascending (.table upper)) : Ascending (.table (tableOver lower upper)) := by
  have laid := ascending_laidOver hupper (some (table lower)) (by rintro _ ⟨⟩; exact hlower)
  rwa [laidOver_tables] at laid

/-! ## Paths -/

/-- On the way along a path of keys there are only tables. -/
def Descends : List String → Setting → Prop
  | [], _ => True
  | key :: rest, v => ∃ t, v = table t ∧ ∀ inner, t.lookup key = some inner → Descends rest inner

theorem reach?_cons (key : String) (rest : List String) (t : Table) :
    reach? (key :: rest) (table t) = (t.lookup key).bind (reach? rest) := rfl

theorem descends_of_prefixes {keys : List String}
    (h : ∀ front, front <+: keys → front ≠ keys → ∀ u, reach? front v = some u →
      u.isTable = true) : Descends keys v := by
  induction keys generalizing v with
  | nil => trivial
  | cons key rest ih =>
    obtain ⟨t, rfl⟩ := exists_of_isTable (h [] List.nil_prefix (by simp) v rfl)
    refine ⟨t, rfl, fun inner found => ih fun front hfront differs u reached => ?_⟩
    refine h (key :: front) (List.prefix_cons_inj key |>.mpr hfront) (by simpa using differs) u ?_
    rw [reach?_cons, found]
    exact reached

theorem reach?_laidOver {keys : List String} (h : Ascending v) (hv : Descends keys v)
    (hold : ∀ o, old = some o → Descends keys o) :
    reach? keys (laidOver old v) =
      ((reach? keys v).map (laidOver (old.bind (reach? keys)))).or (old.bind (reach? keys)) := by
  induction keys generalizing v old with
  | nil => simp [reach?]
  | cons key rest ih =>
    obtain ⟨upper, rfl, inner⟩ := hv
    cases old with
    | none =>
      have bare : laidOver none = id := funext laidOver_none
      simp [bare]
    | some lower =>
      obtain ⟨lower, rfl, beneath⟩ := hold _ rfl
      rw [laidOver_tables, reach?_cons, lookup_tableOver h.nodup, Option.bind_some, reach?_cons,
        reach?_cons]
      cases found : upper.lookup key with
      | none => simp
      | some w =>
        simpa using ih (h.of_lookup found) (inner w found) beneath

theorem descends_laidOver {keys : List String} (h : Ascending v) (hv : Descends keys v)
    (hold : ∀ o, old = some o → Descends keys o) : Descends keys (laidOver old v) := by
  induction keys generalizing v old with
  | nil => trivial
  | cons key rest ih =>
    obtain ⟨upper, rfl, inner⟩ := hv
    cases old with
    | none => exact laidOver_none _ ▸ ⟨upper, rfl, inner⟩
    | some lower =>
      obtain ⟨lower, rfl, beneath⟩ := hold _ rfl
      refine ⟨_, laidOver_tables, fun w found => ?_⟩
      rw [lookup_tableOver h.nodup] at found
      cases above : upper.lookup key with
      | none =>
        rw [above, Option.map_none, Option.none_or] at found
        exact beneath w found
      | some v =>
        rw [above, Option.map_some, Option.some_or] at found
        cases found
        exact ih (h.of_lookup above) (inner v above) beneath

/-! ## Layers -/

/-- The two are the same, or both are tables. -/
inductive SameLeaf : Option Setting → Option Setting → Prop where
  | same (o : Option Setting) : SameLeaf o o
  | tables {v w : Setting} (hv : v.isTable = true) (hw : w.isTable = true) :
    SameLeaf (some v) (some w)

theorem SameLeaf.eq {o o' : Option Setting} (h : SameLeaf o o')
    (leaf : ∀ v, o = some v → v.isTable = false) : o' = o := by
  cases h with
  | same => rfl
  | tables hv hw => cases hv.symm.trans (leaf _ rfl)

theorem SameLeaf.over {o o' : Option Setting} (h : SameLeaf o o') (upper : Option Setting) :
    SameLeaf ((upper.map (laidOver o)).or o) (upper.or o') := by
  cases upper with
  | none => simpa using h
  | some v =>
    cases hv : v.isTable with
    | true => exact .tables (isTable_laidOver hv) hv
    | false => simpa [laidOver_leaf o hv] using SameLeaf.same (some v)

/-- What the highest of some layers gives that gives anything; the first layer is the lowest. -/
def highest? (keys : List String) (layers : List Table) : Option Setting :=
  layers.reverse.findSome? fun t => reach? keys (table t)

theorem highest?_snoc (keys : List String) (layers : List Table) (t : Table) :
    highest? keys (layers ++ [t]) = (reach? keys (table t)).or (highest? keys layers) := by
  unfold highest?
  rw [List.reverse_append, List.reverse_singleton, List.singleton_append, List.findSome?_cons]
  cases reach? keys (table t) with
  | none => rfl
  | some v => rfl

/-- Layers laid one over another give at a path what the highest gives that gives
anything there, if on the way to it all of them have tables only. -/
theorem reach?_layers {keys : List String} {base : Table} {layers : List Table}
    (h : ∀ t ∈ base :: layers, Ascending (table t) ∧ Descends keys (table t)) :
    Ascending (table (layers.foldl tableOver base)) ∧
      Descends keys (table (layers.foldl tableOver base)) ∧
      SameLeaf (reach? keys (table (layers.foldl tableOver base)))
        (highest? keys (base :: layers)) := by
  -- The last layer lies on top of all others, so it is the one that is taken off.
  induction layers using List.reverseRecOn with
  | nil =>
    obtain ⟨ascending, descends⟩ := h base List.mem_cons_self
    refine ⟨ascending, descends, ?_⟩
    have alone : highest? keys [base] = reach? keys (table base) := by
      simp [highest?]
    rw [alone]
    exact .same _
  | append_singleton layers t ih =>
    rw [← List.cons_append, List.forall_mem_append] at h
    obtain ⟨ascending, descends, same⟩ := ih h.1
    obtain ⟨ascending', descends'⟩ := h.2 t List.mem_cons_self
    have below : ∀ o, some (table (layers.foldl tableOver base)) = some o → Descends keys o := by
      rintro _ ⟨⟩
      exact descends
    rw [List.foldl_append, List.foldl_cons, List.foldl_nil]
    refine ⟨ascending_tableOver ascending ascending', ?_, ?_⟩
    · rw [← laidOver_tables]
      exact descends_laidOver ascending' descends' below
    · rw [← laidOver_tables, reach?_laidOver ascending' descends' below, ← List.cons_append,
        highest?_snoc]
      exact same.over _

end TelemetrySidecar.Setting
