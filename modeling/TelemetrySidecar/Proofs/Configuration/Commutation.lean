import TelemetrySidecar.Proofs.Configuration.Algebra
import TelemetrySidecar.Proofs.Node.Order

/-
  Merging in another order

  Merging gives alike mappings from alike ones (`alike_merge`), so the order of
  entries in what is merged does not matter. The order of merging itself does,
  as the later mapping decides wherever not both have a mapping. Mappings that
  never meet in this way (`Compatible`) are merged alike in either order
  (`merge_comm`), over any third one (`merge_right_comm`, from associativity),
  and in any number and order (`alike_foldl_merge_of_perm`).
-/

namespace TelemetrySidecar

namespace Mapping

/-! ## Merging alike mappings -/

/-- Alike mappings over alike values, if they are merged alike into mappings. -/
theorem alike_mergeOver {old old' : Option Node} {m m' : Mapping}
    (hold : Option.Rel Node.Alike old old') (hm : (Node.map m).Alike (.map m'))
    (hmerge : ∀ a a' : Mapping, (Node.map a).Alike (.map a') →
      (Node.map (a.merge m)).Alike (.map (a'.merge m'))) :
    (Node.mergeOver old (.map m)).Alike (Node.mergeOver old' (.map m')) := by
  cases hold with
  | none => simpa only [Node.mergeOver_none] using hm
  | @some o o' ho =>
    cases hmap : o.isMapping with
    | true =>
      obtain ⟨a, rfl⟩ := Node.isMapping_iff.mp hmap
      obtain ⟨a', rfl⟩ := Node.isMapping_iff.mp (ho.isMapping ▸ hmap)
      exact hmerge a a' ho
    | false =>
      have hmap' : o'.isMapping = false := ho.isMapping ▸ hmap
      rw [Node.mergeOver_of_no_mapping (by simpa using hmap),
        Node.mergeOver_of_no_mapping (by simpa using hmap')]
      exact hm

theorem alike_merge {b : Mapping} : ∀ {a a' b' : Mapping},
    (Node.map a).Alike (.map a') → (Node.map b).Alike (.map b') →
    (Node.map (a.merge b)).Alike (.map (a'.merge b')) := by
  induction b using induct with
  | step b ih =>
    intro a a' b' hA hB
    have hb : b.WellFormed := wellFormed_iff.mp hB.left
    have hb' : b'.WellFormed := wellFormed_iff.mp hB.right
    refine alike_of_rel_find? ((wellFormed_iff.mp hA.left).merge hb)
      ((wellFormed_iff.mp hA.right).merge hb') fun k hk => ?_
    have hold := rel_find?_of_alike hA hk
    rw [find?_merge hk hb, find?_merge hk hb']
    cases hbk : b.find? k with
    | none =>
      rw [find?_none_of_alike hB hk hbk]
      exact hold
    | some v =>
      obtain ⟨w, hbk', hvw⟩ := exists_find?_of_alike hB hk hbk
      rw [hbk']
      refine .some ?_
      cases hv : v.isMapping with
      | false =>
        rw [Node.mergeOver_of_not_mapping hv, Node.mergeOver_of_not_mapping (hvw.isMapping ▸ hv)]
        exact hvw
      | true =>
        obtain ⟨ib, rfl⟩ := Node.isMapping_iff.mp hv
        obtain ⟨ib', rfl⟩ := Node.isMapping_iff.mp (hvw.isMapping ▸ hv)
        exact alike_mergeOver hold hvw fun _ _ h => ih _ ib hbk h hvw

/-! ## Merging in either order -/

/-- Where both mappings have a value, both have a mapping. -/
def Compatible (x y : Mapping) : Prop :=
  ∀ path v w, (∀ key ∈ path, key.WellFormed) → x.at? path = some v → y.at? path = some w →
    v.isMapping = true ∧ w.isMapping = true

namespace Compatible

variable {x y : Mapping}

theorem symm (h : x.Compatible y) : y.Compatible x :=
  fun path v w hp hv hw => (h path w v hp hw hv).symm

theorem not_reopenedBy (h : x.Compatible y) : ¬ x.ReopenedBy y := by
  rintro ⟨path, v, inner, hp, hv, hnone, hinner⟩
  rw [(h path v _ hp hv hinner).1] at hnone
  cases hnone

theorem inner {k : Node} {ix iy : Mapping} (h : x.Compatible y) (hk : k.WellFormed)
    (hx : x.find? k = some (.map ix)) (hy : y.find? k = some (.map iy)) : ix.Compatible iy := by
  intro path v w hp hv hw
  exact h (k :: path) v w (List.forall_mem_cons.mpr ⟨hk, hp⟩) (at?_cons_of_map hx hv)
    (at?_cons_of_map hy hw)

end Compatible

theorem merge_comm {y : Mapping} : ∀ {x : Mapping}, x.WellFormed → y.WellFormed →
    x.Compatible y → (Node.map (x.merge y)).Alike (.map (y.merge x)) := by
  induction y using induct with
  | step y ih =>
    intro x hx hy h
    refine alike_of_rel_find? (hx.merge hy) (hy.merge hx) fun k hk => ?_
    rw [find?_merge hk hy, find?_merge hk hx]
    cases hxk : x.find? k with
    | none =>
      cases hyk : y.find? k with
      | none => exact .none
      | some w =>
        simp only [Node.mergeOver_none]
        exact .some (.refl (hy.find? hyk))
    | some v =>
      cases hyk : y.find? k with
      | none =>
        simp only [Node.mergeOver_none]
        exact .some (.refl (hx.find? hxk))
      | some w =>
        obtain ⟨hv, hw⟩ := h [k] v w (by simpa using hk) hxk hyk
        obtain ⟨ix, rfl⟩ := Node.isMapping_iff.mp hv
        obtain ⟨iy, rfl⟩ := Node.isMapping_iff.mp hw
        simp only [Node.mergeOver_maps]
        exact .some (ih _ iy hyk (hx.inner hxk) (hy.inner hyk) (h.inner hk hxk hyk))

theorem merge_right_comm {d x y : Mapping} (hd : d.WellFormed) (hx : x.WellFormed)
    (hy : y.WellFormed) (h : x.Compatible y) :
    (Node.map ((d.merge x).merge y)).Alike (.map ((d.merge y).merge x)) := by
  rw [merge_assoc hd hx hy h.not_reopenedBy, merge_assoc hd hy hx h.symm.not_reopenedBy]
  exact alike_merge (.refl (wellFormed_iff.mpr hd)) (merge_comm hx hy h)

theorem alike_foldl_merge {xs ys : List Mapping}
    (h : List.Forall₂ (fun x y => (Node.map x).Alike (.map y)) xs ys) :
    ∀ {d d' : Mapping}, (Node.map d).Alike (.map d') →
      (Node.map (xs.foldl merge d)).Alike (.map (ys.foldl merge d')) := by
  induction h with
  | nil => exact fun hd => hd
  | cons hxy _ ih => exact fun hd => ih (alike_merge hd hxy)

/-- Mappings that are compatible with each other are merged in any order. -/
theorem alike_foldl_merge_of_perm {xs ys : List Mapping} (h : xs.Perm ys) :
    (∀ x ∈ xs, WellFormed x) → xs.Pairwise Compatible → ∀ {d : Mapping}, d.WellFormed →
      (Node.map (xs.foldl merge d)).Alike (.map (ys.foldl merge d)) := by
  induction h with
  | nil =>
    intro _ _ d hd
    exact .refl (wellFormed_iff.mpr hd)
  | cons x _ ih =>
    intro hwf hcomp d hd
    rw [List.forall_mem_cons] at hwf
    exact ih hwf.2 (List.pairwise_cons.mp hcomp).2 (hd.merge hwf.1)
  | swap x y l =>
    intro hwf hcomp d hd
    simp only [List.forall_mem_cons] at hwf
    obtain ⟨hy, hx, hl⟩ := hwf
    have hyx : y.Compatible x := (List.pairwise_cons.mp hcomp).1 x List.mem_cons_self
    have hrefl : List.Forall₂ (fun x y => (Node.map x).Alike (.map y)) l l :=
      List.forall₂_same.mpr fun z hz => .refl (wellFormed_iff.mpr (hl z hz))
    exact alike_foldl_merge hrefl (merge_right_comm hd hy hx hyx)
  | trans hp _ ih ih' =>
    intro hwf hcomp d hd
    refine (ih hwf hcomp hd).trans (ih' (fun x hx => hwf x (hp.mem_iff.mpr hx)) ?_ hd)
    exact (hp.pairwise_iff fun h => h.symm).mp hcomp

end Mapping

end TelemetrySidecar
