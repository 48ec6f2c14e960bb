import TelemetrySidecar.Proofs.Node.Same

/-
  Look-up and insertion

  A mapping is a list of entries, and a key is looked up by sameness. What is
  proved is that such a list behaves as a map does: a key finds what was put
  under it last and else what it found before (`find?_insert`), and insertion
  keeps a mapping well-formed (`WellFormed.insert`). Both keys must be
  well-formed, the mapping need not be. Mappings that list the same keys in the
  same order and find the same under each are equal (`WellFormed.eq_of_find?`).
-/

namespace TelemetrySidecar

/-- Whether a node is a mapping without a tag. -/
def Node.isMapping : Node → Bool
  | .map _ => true
  | _ => false

theorem Node.isMapping_iff {n : Node} : n.isMapping = true ↔ ∃ m, n = .map m := by
  cases n <;> simp [isMapping]

namespace Mapping

/-! ## Look-up -/

theorem find?_nil (k : Node) : find? k [] = none := rfl

theorem find?_cons (k : Node) (e : Node × Node) (m : Mapping) :
    find? k (e :: m) = if k.same e.1 then some e.2 else m.find? k := rfl

theorem insert_nil (key value : Node) : insert key value [] = [(key, value)] := rfl

theorem insert_cons (key value : Node) (e : Node × Node) (m : Mapping) :
    insert key value (e :: m) =
      if key.same e.1 then (e.1, value) :: m else e :: m.insert key value := rfl

theorem find?_eq_none_iff {k : Node} {m : Mapping} :
    m.find? k = none ↔ ∀ e ∈ m, k.same e.1 = false := by
  induction m with
  | nil => simp [find?_nil]
  | cons e m ih =>
    cases h : k.same e.1 <;> simp [find?_cons, h, ih]

theorem mem_of_find? {k v : Node} {m : Mapping} (h : m.find? k = some v) :
    ∃ key, (key, v) ∈ m ∧ k.same key = true := by
  induction m with
  | nil => simp [find?_nil] at h
  | cons e m ih =>
    rw [find?_cons] at h
    split at h
    · rename_i hk
      obtain rfl : e.2 = v := by simpa using h
      exact ⟨e.1, List.mem_cons_self, hk⟩
    · obtain ⟨key, hm, hk⟩ := ih h
      exact ⟨key, List.mem_cons_of_mem e hm, hk⟩

theorem find?_congr {k key : Node} (hk : k.WellFormed) (h : k.same key = true) (m : Mapping) :
    m.find? k = m.find? key := by
  induction m with
  | nil => rfl
  | cons e m ih => simp only [find?_cons, Node.same_congr hk h, ih]

theorem find?_insert {k key : Node} (hk : k.WellFormed) (hkey : key.WellFormed) (value : Node)
    (m : Mapping) :
    (m.insert key value).find? k = if k.same key then some value else m.find? k := by
  induction m with
  | nil => rfl
  | cons e m ih =>
    rw [insert_cons]
    split
    · rename_i he
      have hke : k.same e.1 = k.same key := by
        rw [Bool.eq_iff_iff]
        exact ⟨fun h => Node.same_trans k e.1 key h (Node.same_symm hkey e.1 he),
          fun h => Node.same_trans k key e.1 h he⟩
      simp only [find?_cons, hke]
      split <;> rfl
    · rename_i he
      by_cases hke : k.same e.1 = true
      · -- The entry found is not the one put, so `k` is not `key`.
        have hne : k.same key = false := by
          cases h : k.same key
          · rfl
          · exact absurd (Node.same_trans key k e.1 (Node.same_symm hk key h) hke) he
        simp [find?_cons, hke, hne]
      · simp only [find?_cons, hke, Bool.false_eq_true, if_false, ih]

theorem find?_insert_text (s t : String) (value : Node) (m : Mapping) :
    (m.insert (.text t) value).find? (.text s) = if s = t then some value else m.find? (.text s) := by
  rw [find?_insert (.text s) (.text t)]
  by_cases h : s = t <;> simp [Node.same_texts, h]

theorem insert_insert (key value value' : Node) (m : Mapping) :
    (m.insert key value).insert key value' = m.insert key value' := by
  induction m with
  | nil => simp [insert_nil, insert_cons, Node.same_refl]
  | cons e m ih =>
    by_cases h : key.same e.1 = true
    · simp [insert_cons, h]
    · simp [insert_cons, h, ih]

/-- To put what stands there already changes nothing. -/
theorem insert_of_find? {key value : Node} {m : Mapping} (h : m.find? key = some value) :
    m.insert key value = m := by
  induction m with
  | nil => simp [find?_nil] at h
  | cons e m ih =>
    by_cases hk : key.same e.1 = true
    · obtain rfl : e.2 = value := by simpa [find?_cons, hk] using h
      simp [insert_cons, hk]
    · have hm : Mapping.find? key m = some value := by simpa [find?_cons, hk] using h
      simp [insert_cons, hk, ih hm]

/-- A new key goes to the end. -/
theorem insert_of_find?_none {key : Node} {m : Mapping} (h : m.find? key = none) (value : Node) :
    m.insert key value = m ++ [(key, value)] := by
  rw [find?_eq_none_iff] at h
  induction m with
  | nil => rfl
  | cons e m ih =>
    rw [List.forall_mem_cons] at h
    simp [insert_cons, h.1, ih h.2]

/-! ## Entries after an insertion -/

/-- The keys there were stay where they were. -/
theorem keys_insert (key value : Node) (m : Mapping) :
    m.map Prod.fst <+: (m.insert key value).map Prod.fst := by
  induction m with
  | nil => exact List.nil_prefix
  | cons e m ih =>
    rw [insert_cons]
    split
    · exact List.prefix_rfl
    · exact List.cons_prefix_cons.mpr ⟨rfl, ih⟩

theorem forall_key_insert {P : Node → Prop} {m : Mapping} (hm : ∀ e ∈ m, P e.1) {key : Node}
    (hkey : P key) (value : Node) : ∀ e ∈ m.insert key value, P e.1 := by
  induction m with
  | nil => simpa [insert_nil] using hkey
  | cons e m ih =>
    rw [List.forall_mem_cons] at hm
    rw [insert_cons]
    split
    · exact List.forall_mem_cons.mpr hm
    · exact List.forall_mem_cons.mpr ⟨hm.1, ih hm.2⟩

theorem forall_value_insert {P : Node → Prop} {m : Mapping} (hm : ∀ e ∈ m, P e.2) (key : Node)
    {value : Node} (hvalue : P value) : ∀ e ∈ m.insert key value, P e.2 := by
  induction m with
  | nil => simpa [insert_nil] using hvalue
  | cons e m ih =>
    rw [List.forall_mem_cons] at hm
    rw [insert_cons]
    split
    · exact List.forall_mem_cons.mpr ⟨hvalue, hm.2⟩
    · exact List.forall_mem_cons.mpr ⟨hm.1, ih hm.2⟩

/-! ## Well-formed mappings -/

/-- A mapping whose keys and values are well-formed, and no key of which stands
in it twice. -/
structure WellFormed (m : Mapping) : Prop where
  keys : ∀ e ∈ m, e.1.WellFormed
  values : ∀ e ∈ m, e.2.WellFormed
  apart : m.Pairwise fun e f => e.1.same f.1 = false

theorem wellFormed_iff {m : Mapping} : (Node.map m).WellFormed ↔ m.WellFormed := by
  constructor
  · intro h
    cases h with
    | map keys values apart => exact ⟨keys, values, apart⟩
  · rintro ⟨keys, values, apart⟩
    exact .map keys values apart

theorem WellFormed.nil : WellFormed [] := ⟨by simp, by simp, List.Pairwise.nil⟩

theorem apart_insert {m : Mapping} (keys : ∀ e ∈ m, e.1.WellFormed)
    (apart : m.Pairwise fun e f => e.1.same f.1 = false) (key value : Node) :
    (m.insert key value).Pairwise fun e f => e.1.same f.1 = false := by
  induction m with
  | nil => exact List.pairwise_singleton ..
  | cons e m ih =>
    rw [List.forall_mem_cons] at keys
    rw [List.pairwise_cons] at apart
    rw [insert_cons]
    split
    · exact List.pairwise_cons.mpr apart
    · rename_i hne
      have hkey : e.1.same key = false := by
        cases h : e.1.same key
        · rfl
        · exact absurd (Node.same_symm keys.1 key h) hne
      refine List.pairwise_cons.mpr ⟨?_, ih keys.2 apart.2⟩
      exact forall_key_insert (P := fun n => e.1.same n = false) apart.1 hkey value

theorem WellFormed.insert {m : Mapping} (hm : m.WellFormed) {key value : Node}
    (hk : key.WellFormed) (hv : value.WellFormed) : (m.insert key value).WellFormed :=
  ⟨forall_key_insert hm.keys hk value, forall_value_insert hm.values key hv,
    apart_insert hm.keys hm.apart key value⟩

theorem WellFormed.find? {m : Mapping} (hm : m.WellFormed) {k v : Node} (h : m.find? k = some v) :
    v.WellFormed := by
  obtain ⟨key, hmem, _⟩ := mem_of_find? h
  exact hm.values _ hmem

theorem WellFormed.inner {m inner : Mapping} (hm : m.WellFormed) {k : Node}
    (h : m.find? k = some (.map inner)) : inner.WellFormed :=
  wellFormed_iff.mp (hm.find? h)

/-! ## Entry by entry -/

theorem WellFormed.of_cons {e : Node × Node} {m : Mapping} (h : WellFormed (e :: m)) :
    WellFormed m where
  keys f hf := h.keys f (List.mem_cons_of_mem e hf)
  values f hf := h.values f (List.mem_cons_of_mem e hf)
  apart := h.apart.of_cons

/-- No later key is the first one. -/
theorem WellFormed.same_head {e f : Node × Node} {m : Mapping} (h : WellFormed (e :: m))
    (hf : f ∈ m) : f.1.same e.1 = false := by
  rw [Bool.eq_false_iff]
  intro hs
  have hef := Node.same_symm (h.of_cons.keys f hf) e.1 hs
  rw [(List.pairwise_cons.mp h.apart).1 f hf] at hef
  cases hef

theorem find?_cons_self (key value : Node) (m : Mapping) :
    find? key ((key, value) :: m) = some value := by
  rw [find?_cons, Node.same_refl, if_pos rfl]

theorem find?_cons_of_ne {k key : Node} (h : k.same key = false) (value : Node) (m : Mapping) :
    find? k ((key, value) :: m) = m.find? k := by
  rw [find?_cons, h, if_neg Bool.false_ne_true]

theorem find?_append_of_none {key : Node} {a : Mapping} (h : a.find? key = none) (b : Mapping) :
    find? key (a ++ b) = b.find? key := by
  induction a with
  | nil => rfl
  | cons e a ih =>
    rw [find?_eq_none_iff, List.forall_mem_cons] at h
    rw [List.cons_append, find?_cons, h.1, if_neg Bool.false_ne_true]
    exact ih (find?_eq_none_iff.mpr h.2)

theorem insert_append_of_none {key : Node} {a : Mapping} (h : a.find? key = none) (value : Node)
    (b : Mapping) : insert key value (a ++ b) = a ++ b.insert key value := by
  induction a with
  | nil => rfl
  | cons e a ih =>
    rw [find?_eq_none_iff, List.forall_mem_cons] at h
    rw [List.cons_append, insert_cons, h.1, if_neg Bool.false_ne_true, List.cons_append,
      ih (find?_eq_none_iff.mpr h.2)]

theorem WellFormed.find?_of_mem {m : Mapping} (hm : m.WellFormed) {e : Node × Node} (he : e ∈ m)
    {k : Node} (hk : k.WellFormed) (h : k.same e.1 = true) : m.find? k = some e.2 := by
  induction m with
  | nil => cases he
  | cons f m ih =>
    rcases List.mem_cons.mp he with rfl | he
    · rw [find?_cons, if_pos h]
    · -- An earlier entry under this key would have the key of the later one.
      have hne : k.same f.1 = false := by
        rw [Bool.eq_false_iff]
        intro hkf
        have hef := Node.same_trans e.1 k f.1 (Node.same_symm hk e.1 h) hkf
        rw [hm.same_head he] at hef
        cases hef
      rw [find?_cons_of_ne hne, ih hm.of_cons he]

/-- Mappings with the same keys in the same order and the same value under each
key are equal. -/
theorem WellFormed.eq_of_find? {a b : Mapping} (ha : a.WellFormed)
    (keys : a.map Prod.fst = b.map Prod.fst) (values : ∀ e ∈ a, a.find? e.1 = b.find? e.1) :
    a = b := by
  induction a generalizing b with
  | nil =>
    symm
    simpa using keys.symm
  | cons e a ih =>
    cases b with
    | nil => simp at keys
    | cons f b =>
      obtain ⟨k, v⟩ := e
      obtain ⟨k', v'⟩ := f
      obtain ⟨rfl, hkeys⟩ : k = k' ∧ a.map Prod.fst = b.map Prod.fst := by simpa using keys
      rw [List.forall_mem_cons] at values
      obtain ⟨hv, hvalues⟩ := values
      obtain rfl : v = v' := by simpa only [find?_cons_self, Option.some.injEq] using hv
      have hrest : ∀ e ∈ a, Mapping.find? e.1 a = Mapping.find? e.1 b := by
        intro e he
        have hne : e.1.same k = false := ha.same_head he
        simpa only [find?_cons_of_ne hne] using hvalues e he
      rw [ih ha.of_cons hkeys hrest]

theorem has_of_mem {e : Node × Node} {m : Mapping} (h : e ∈ m) : m.has e.1 = true := by
  rw [has, Option.isSome_iff_ne_none, ne_eq, find?_eq_none_iff]
  intro hnone
  have hne := hnone e h
  rw [Node.same_refl] at hne
  cases hne

theorem has_text_iff {key : String} {m : Mapping} :
    m.has (.text key) = true ↔ Node.text key ∈ m.map Prod.fst := by
  constructor
  · intro h
    obtain ⟨v, hv⟩ := Option.isSome_iff_exists.mp h
    obtain ⟨k, hmem, hsame⟩ := mem_of_find? hv
    rw [Node.same_text_iff.mp hsame] at hmem
    exact List.mem_map_of_mem hmem
  · intro h
    obtain ⟨e, he, hkey⟩ := List.mem_map.mp h
    rw [← hkey]
    exact has_of_mem he

theorem has_insert {k key : Node} (hk : k.WellFormed) (hkey : key.WellFormed) (value : Node)
    (m : Mapping) : (m.insert key value).has k = (k.same key || m.has k) := by
  rw [has, has, find?_insert hk hkey]
  cases k.same key <;> simp

theorem map_fst_insert (key value : Node) (m : Mapping) :
    (m.insert key value).map Prod.fst =
      if m.has key then m.map Prod.fst else m.map Prod.fst ++ [key] := by
  induction m with
  | nil => rfl
  | cons e m ih =>
    by_cases hk : key.same e.1 = true
    · simp [insert_cons, has, find?_cons, hk]
    · rw [has] at ih
      simp only [insert_cons, has, find?_cons, hk, Bool.false_eq_true, if_false, List.map_cons, ih]
      split <;> rfl

theorem getElem?_insert_of_ne {key : String} {e : Node × Node} (hne : e.1 ≠ .text key)
    (value : Node) {m : Mapping} : ∀ {i : Nat}, m[i]? = some e →
    (m.insert (.text key) value)[i]? = some e := by
  induction m with
  | nil =>
    intro i h
    simp at h
  | cons f m ih =>
    intro i h
    rw [insert_cons]
    split
    · rename_i hkey
      cases i with
      | zero =>
        cases h
        exact absurd (Node.same_text_iff.mp hkey) hne
      | succ i => exact h
    · cases i with
      | zero => exact h
      | succ i => exact ih h

theorem WellFormed.single {key value : Node} (hk : key.WellFormed) (hv : value.WellFormed) :
    WellFormed [(key, value)] :=
  WellFormed.nil.insert hk hv

/-! ## Mappings within mappings -/

/-- Induction on a mapping, with the hypothesis for each mapping that a key finds. -/
@[elab_as_elim]
theorem induct {P : Mapping → Prop}
    (step : ∀ m : Mapping, (∀ k inner, m.find? k = some (.map inner) → P inner) → P m)
    (m : Mapping) : P m := by
  have hnode : ∀ n : Node, ∀ m, n = .map m → P m := by
    intro n
    induction n using Node.induct with
    | map entries _ ih =>
      rintro m ⟨⟩
      refine step entries fun k inner h => ?_
      obtain ⟨key, hmem, -⟩ := mem_of_find? h
      exact ih _ hmem inner rfl
    | _ =>
      intro m h
      cases h
  exact hnode (.map m) m rfl

end Mapping

end TelemetrySidecar
