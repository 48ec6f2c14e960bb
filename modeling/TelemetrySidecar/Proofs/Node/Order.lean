import Mathlib.Data.List.Forall2
import TelemetrySidecar.Proofs.Node.Mapping

/-
  The order of entries

  Two nodes that differ in the order of their mappings' entries, at any depth,
  are the same (`Reordered.same`). Of nodes that are the same and well-formed
  (`Alike`) it is proved:
    1. the entries of one mapping can be brought into an order in which they are
       alike one by one to those of the other (`exists_perm_of_alike`);
    2. a key finds alike values in both or nothing in both
       (`rel_find?_of_alike`), and mappings of which this is true of all keys are
       alike (`alike_of_rel_find?`).
-/

namespace TelemetrySidecar

/-! ## Partners one to one -/

section Partners

variable {α β : Type} {R : α → β → Prop}

/-- Things that have partners, no two of them the same, are no more than there are
partners. -/
theorem length_le_of_partners : ∀ {as : List α} {bs : List β}, (∀ a ∈ as, ∃ b ∈ bs, R a b) →
    as.Pairwise (fun a a' => ∀ b, R a b → ¬ R a' b) → as.length ≤ bs.length
  | [], _, _, _ => Nat.zero_le _
  | a :: as, bs, hp, hd => by
    rw [List.forall_mem_cons] at hp
    rw [List.pairwise_cons] at hd
    obtain ⟨b, hb, hR⟩ := hp.1
    obtain ⟨s, t, rfl⟩ := List.append_of_mem hb
    have hrest : ∀ a' ∈ as, ∃ b ∈ s ++ t, R a' b := by
      intro a' ha'
      obtain ⟨b', hb', hR'⟩ := hp.2 a' ha'
      have hne : b' ≠ b := fun h => hd.1 a' ha' b hR (h ▸ hR')
      exact ⟨b', by simpa [hne] using hb', hR'⟩
    have hlength := length_le_of_partners hrest hd.2
    simp only [List.length_cons, List.length_append] at hlength ⊢
    omega

/-- As many things as partners, no two of which share one, can be brought into the
order of their partners. -/
theorem exists_perm_forall₂ : ∀ {bs : List β} {as : List α}, as.length = bs.length →
    (∀ b ∈ bs, ∃ a ∈ as, R a b) → bs.Pairwise (fun b b' => ∀ a, R a b → ¬ R a b') →
    ∃ as' : List α, as.Perm as' ∧ List.Forall₂ R as' bs
  | [], as, hl, _, _ => by
    obtain rfl : as = [] := List.eq_nil_of_length_eq_zero hl
    exact ⟨[], .nil, .nil⟩
  | b :: bs, as, hl, hp, hd => by
    rw [List.forall_mem_cons] at hp
    rw [List.pairwise_cons] at hd
    obtain ⟨a, ha, hR⟩ := hp.1
    obtain ⟨s, t, rfl⟩ := List.append_of_mem ha
    have hrest : ∀ b' ∈ bs, ∃ a ∈ s ++ t, R a b' := by
      intro b' hb'
      obtain ⟨a', ha', hR'⟩ := hp.2 b' hb'
      have hne : a' ≠ a := fun h => hd.1 b' hb' a hR (h ▸ hR')
      exact ⟨a', by simpa [hne] using ha', hR'⟩
    have hlength : (s ++ t).length = bs.length := by
      simp only [List.length_cons, List.length_append] at hl ⊢
      omega
    obtain ⟨as', hperm, hforall⟩ := exists_perm_forall₂ hlength hrest hd.2
    exact ⟨a :: as', List.perm_middle.trans (hperm.cons a), .cons hR hforall⟩

end Partners

namespace Node

/-! ## Entries in another order -/

/-- A node and one that has the entries of its mappings in another order, at any
depth, in keys and under tags as well. -/
inductive Reordered : Node → Node → Prop where
  | refl (node : Node) : Reordered node node
  | trans {a b c : Node} (first : Reordered a b) (second : Reordered b c) : Reordered a c
  | entries {m m' : List (Node × Node)} (perm : m.Perm m') : Reordered (.map m) (.map m')
  | entry {k k' v v' : Node} (front back : List (Node × Node)) (key : Reordered k k')
      (value : Reordered v v') :
      Reordered (.map (front ++ (k, v) :: back)) (.map (front ++ (k', v') :: back))
  | item {i i' : Node} (front back : List Node) (item : Reordered i i') :
      Reordered (.seq (front ++ i :: back)) (.seq (front ++ i' :: back))
  | under {v v' : Node} (tag : String) (value : Reordered v v') :
      Reordered (.tagged tag v) (.tagged tag v')

theorem sameItems_iff {as bs : List Node} :
    sameItems as bs = true ↔ List.Forall₂ (fun a b => a.same b = true) as bs := by
  induction as generalizing bs with
  | nil => cases bs <;> simp [sameItems]
  | cons a as ih => cases bs <;> simp [sameItems, ih]

theorem Reordered.same {a b : Node} (h : a.Reordered b) : a.same b = true := by
  induction h with
  | refl node => exact same_refl node
  | trans _ _ ihab ihbc => exact same_trans _ _ _ ihab ihbc
  | @entries m m' perm =>
    refine same_map_iff.mpr ⟨m', rfl, perm.length_eq, fun e he => ?_⟩
    exact ⟨e, perm.mem_iff.mp he, same_refl e.1, same_refl e.2⟩
  | @entry k k' v v' front back _ _ ihk ihv =>
    refine same_map_iff.mpr ⟨_, rfl, by simp, fun e he => ?_⟩
    by_cases hkv : e = (k, v)
    · subst hkv
      exact ⟨(k', v'), by simp, ihk, ihv⟩
    · have he' : e ∈ front ++ (k', v') :: back := by
        rw [List.mem_append, List.mem_cons] at he ⊢
        exact he.imp_right fun h => .inr (h.resolve_left hkv)
      exact ⟨e, he', same_refl e.1, same_refl e.2⟩
  | item front back _ ih =>
    refine same_seq_iff.mpr ⟨_, rfl, sameItems_iff.mpr ?_⟩
    have hrefl : ∀ items : List Node, List.Forall₂ (fun a b => a.same b = true) items items :=
      fun items => List.forall₂_same.mpr fun i _ => same_refl i
    exact List.rel_append (hrefl front) (.cons ih (hrefl back))
  | under tag _ ih => exact same_tagged_iff.mpr ⟨_, rfl, ih⟩

/-! ## Alike nodes -/

/-- Two well-formed nodes that are the same. -/
structure Alike (a b : Node) : Prop where
  left : a.WellFormed
  right : b.WellFormed
  same : a.same b = true

namespace Alike

variable {a b c : Node}

theorem refl (h : a.WellFormed) : a.Alike a := ⟨h, h, same_refl a⟩

theorem symm (h : a.Alike b) : b.Alike a := ⟨h.right, h.left, same_symm h.left b h.same⟩

theorem trans (h : a.Alike b) (h' : b.Alike c) : a.Alike c :=
  ⟨h.left, h'.right, same_trans a b c h.same h'.same⟩

theorem rel_symm {o o' : Option Node} (h : Option.Rel Alike o o') : Option.Rel Alike o' o := by
  cases h with
  | none => exact .none
  | some h => exact .some h.symm

theorem isMapping (h : a.Alike b) : a.isMapping = b.isMapping := by
  have hs := h.same
  cases a <;> cases b <;> first | rfl | simp [Node.same] at hs

end Alike

theorem text?_of_same {a : Node} : ∀ {b : Node}, a.same b = true → a.text? = b.text? := by
  induction a using Node.induct with
  | tagged tag value ih =>
    intro b h
    obtain ⟨w, rfl, hw⟩ := same_tagged_iff.mp h
    have hunder : value.text? = w.text? := ih hw
    exact hunder
  | text s =>
    intro b h
    rw [same_text_iff.mp h]
  | _ =>
    intro b h
    cases b <;> first | rfl | simp [same] at h

theorem alike_seq_iff {as bs : List Node} :
    (Node.seq as).Alike (.seq bs) ↔ List.Forall₂ Alike as bs := by
  constructor
  · intro h
    have hsame : List.Forall₂ (fun a b => a.same b = true) as bs := by
      obtain ⟨_, ⟨⟩, hitems⟩ := same_seq_iff.mp h.same
      exact sameItems_iff.mp hitems
    have has : ∀ i ∈ as, i.WellFormed := by
      cases h.left with
      | seq each => exact each
    have hbs : ∀ i ∈ bs, i.WellFormed := by
      cases h.right with
      | seq each => exact each
    clear h
    induction hsame with
    | nil => exact .nil
    | cons hab _ ih =>
      rw [List.forall_mem_cons] at has hbs
      exact .cons ⟨has.1, hbs.1, hab⟩ (ih has.2 hbs.2)
  · intro h
    have hwf : (∀ i ∈ as, i.WellFormed) ∧ ∀ i ∈ bs, i.WellFormed := by
      induction h with
      | nil => simp
      | cons hab _ ih =>
        exact ⟨List.forall_mem_cons.mpr ⟨hab.left, ih.1⟩,
          List.forall_mem_cons.mpr ⟨hab.right, ih.2⟩⟩
    have hsame : sameItems as bs = true := sameItems_iff.mpr (h.imp fun _ _ hab => hab.same)
    exact ⟨.seq hwf.1, .seq hwf.2, same_seq_iff.mpr ⟨bs, rfl, hsame⟩⟩

end Node

namespace Mapping

variable {a b : Mapping}

/-- The entries of alike mappings have partners in each other. -/
theorem exists_alike_of_mem (h : (Node.map a).Alike (.map b)) {e : Node × Node} (he : e ∈ a) :
    ∃ f ∈ b, e.1.Alike f.1 ∧ e.2.Alike f.2 := by
  have ha : a.WellFormed := wellFormed_iff.mp h.left
  have hb : b.WellFormed := wellFormed_iff.mp h.right
  obtain ⟨_, ⟨⟩, -, hpartners⟩ := Node.same_map_iff.mp h.same
  obtain ⟨f, hf, hk, hv⟩ := hpartners e he
  exact ⟨f, hf, ⟨ha.keys e he, hb.keys f hf, hk⟩, ⟨ha.values e he, hb.values f hf, hv⟩⟩

/-- No two entries of a well-formed mapping share a partner. -/
theorem WellFormed.pairwise_partners (h : a.WellFormed) :
    a.Pairwise fun e e' => ∀ f : Node × Node, e.1.Alike f.1 → ¬ e'.1.Alike f.1 := by
  refine h.apart.imp fun {e e'} hne f hf hf' => ?_
  have hee' := (hf.trans hf'.symm).same
  rw [hne] at hee'
  cases hee'

/-- The entries of alike mappings can be brought into an order in which they are
alike one by one. -/
theorem exists_perm_of_alike (h : (Node.map a).Alike (.map b)) :
    ∃ a' : Mapping, a.Perm a' ∧
      List.Forall₂ (fun e f => e.1.Alike f.1 ∧ e.2.Alike f.2) a' b := by
  obtain ⟨_, ⟨⟩, hlength, -⟩ := Node.same_map_iff.mp h.same
  refine exists_perm_forall₂ hlength (fun f hf => ?_) ?_
  · obtain ⟨e, he, hk, hv⟩ := exists_alike_of_mem h.symm hf
    exact ⟨e, he, hk.symm, hv.symm⟩
  · have hb : b.WellFormed := wellFormed_iff.mp h.right
    exact hb.pairwise_partners.imp fun hne e hk hk' => hne e hk.1.symm hk'.1.symm

/-! ## Look-up in alike mappings -/

theorem exists_find?_of_alike (h : (Node.map a).Alike (.map b)) {k v : Node}
    (hk : k.WellFormed) (hv : a.find? k = some v) : ∃ w, b.find? k = some w ∧ v.Alike w := by
  have hb : b.WellFormed := wellFormed_iff.mp h.right
  obtain ⟨key, hmem, hkey⟩ := mem_of_find? hv
  obtain ⟨f, hf, hkf, hvf⟩ := exists_alike_of_mem h hmem
  have hsame : k.same f.1 = true := Node.same_trans k key f.1 hkey hkf.same
  exact ⟨f.2, hb.find?_of_mem hf hk hsame, hvf⟩

theorem find?_none_of_alike (h : (Node.map a).Alike (.map b)) {k : Node} (hk : k.WellFormed)
    (hnone : a.find? k = none) : b.find? k = none := by
  cases hbk : b.find? k with
  | none => rfl
  | some w =>
    obtain ⟨v, hv, -⟩ := exists_find?_of_alike h.symm hk hbk
    rw [hnone] at hv
    cases hv

/-- In alike mappings a key finds alike values, or nothing in both. -/
theorem rel_find?_of_alike (h : (Node.map a).Alike (.map b)) {k : Node} (hk : k.WellFormed) :
    Option.Rel Node.Alike (a.find? k) (b.find? k) := by
  cases hak : a.find? k with
  | none =>
    rw [find?_none_of_alike h hk hak]
    exact .none
  | some v =>
    obtain ⟨w, hbk, hvw⟩ := exists_find?_of_alike h hk hak
    rw [hbk]
    exact .some hvw

/-- Every entry has a partner in a mapping in which its key finds an alike value. -/
theorem exists_alike_of_rel (ha : a.WellFormed) (hb : b.WellFormed)
    (h : ∀ k : Node, k.WellFormed → Option.Rel Node.Alike (a.find? k) (b.find? k))
    {e : Node × Node} (he : e ∈ a) : ∃ f ∈ b, e.1.Alike f.1 ∧ e.2.Alike f.2 := by
  have hk : e.1.WellFormed := ha.keys e he
  have hrel := h e.1 hk
  rw [ha.find?_of_mem he hk (Node.same_refl e.1)] at hrel
  cases hw : b.find? e.1 with
  | none =>
    rw [hw] at hrel
    cases hrel
  | some w =>
    rw [hw] at hrel
    cases hrel with
    | some hvw =>
      obtain ⟨key, hmem, hkey⟩ := mem_of_find? hw
      exact ⟨(key, w), hmem, ⟨hk, hb.keys _ hmem, hkey⟩, hvw⟩

theorem WellFormed.length_le (ha : a.WellFormed)
    (h : ∀ e ∈ a, ∃ f ∈ b, e.1.Alike f.1 ∧ e.2.Alike f.2) : a.length ≤ b.length :=
  length_le_of_partners h (ha.pairwise_partners.imp fun hne f hk hk' => hne f hk.1 hk'.1)

/-- Well-formed mappings in which each key finds alike values are alike. -/
theorem alike_of_rel_find? (ha : a.WellFormed) (hb : b.WellFormed)
    (h : ∀ k : Node, k.WellFormed → Option.Rel Node.Alike (a.find? k) (b.find? k)) :
    (Node.map a).Alike (.map b) := by
  have hab : ∀ e ∈ a, ∃ f ∈ b, e.1.Alike f.1 ∧ e.2.Alike f.2 :=
    fun e he => exists_alike_of_rel ha hb h he
  have hba : ∀ f ∈ b, ∃ e ∈ a, f.1.Alike e.1 ∧ f.2.Alike e.2 :=
    fun f hf => exists_alike_of_rel hb ha (fun k hk => Node.Alike.rel_symm (h k hk)) hf
  have hlength : a.length = b.length := Nat.le_antisymm (ha.length_le hab) (hb.length_le hba)
  refine ⟨wellFormed_iff.mpr ha, wellFormed_iff.mpr hb, ?_⟩
  refine Node.same_map_iff.mpr ⟨b, rfl, hlength, fun e he => ?_⟩
  obtain ⟨f, hf, hk, hv⟩ := hab e he
  exact ⟨f, hf, hk.same, hv.same⟩

end Mapping

end TelemetrySidecar
