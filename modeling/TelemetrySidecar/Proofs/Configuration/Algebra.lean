import TelemetrySidecar.Proofs.Configuration.Precedence
import TelemetrySidecar.Proofs.Configuration.Spread

/-
  The algebra of merging

  Laws of merging as equality of trees, the order of their entries included.
  Two well-formed mappings are equal if they list the same keys in the same
  order and have the same value under each (`eq_of_find?`), so a law of merging
  is a law of its keys (`keys_merge`) and one of what stands under a key
  (`find?_merge`). The second is a law of merging again where all operands have
  a mapping there, and the proofs go by induction on the mapping that is merged
  last.

  What is proved:
    1. `merge_laws`: the empty configuration is neutral, merging the same
       configuration a second time changes nothing, and the keys of the first
       configuration come first. Three configurations are merged from the left
       as from the right, unless the third has a mapping where the second one
       has a value that is none (`ReopenedBy`).
    2. In that case there is a first configuration for which the two differ, so
       the condition is exact.
-/

namespace TelemetrySidecar

namespace Mapping

/-! ## The keys of a merge -/

theorem has_merge {k : Node} (hk : k.WellFormed) {b : Mapping} (hb : b.WellFormed) (a : Mapping) :
    (a.merge b).has k = (a.has k || b.has k) := by
  rw [has, has, has, find?_merge hk hb]
  cases b.find? k <;> simp

/-- The keys of the first mapping, and then those that only the second has. -/
theorem keys_merge {b : Mapping} (hb : b.WellFormed) (a : Mapping) :
    (a.merge b).map Prod.fst =
      a.map Prod.fst ++ (b.map Prod.fst).filter fun key => !a.has key := by
  induction b generalizing a with
  | nil => simp [merge_nil]
  | cons e b ih =>
    obtain ⟨key, value⟩ := e
    have hkey : key.WellFormed := hb.keys _ List.mem_cons_self
    -- No later key is the one just put, so it is new exactly if it was before.
    have hlater : ∀ x, ∀ k ∈ b.map Prod.fst, (!(a.insert key x).has k) = !a.has k := by
      intro x k hk
      obtain ⟨e, he, rfl⟩ := List.mem_map.mp hk
      rw [has_insert (hb.of_cons.keys e he) hkey, hb.same_head he, Bool.false_or]
    rw [merge_cons, ih hb.of_cons, map_fst_insert, List.filter_congr (hlater _), List.map_cons,
      List.filter_cons]
    cases a.has key <;> simp

/-! ## Merging with nothing and with itself -/

theorem nil_merge {b : Mapping} (hb : b.WellFormed) : merge [] b = b := by
  have hwf : (merge [] b).WellFormed := WellFormed.nil.merge hb
  refine hwf.eq_of_find? ?_ ?_
  · simp [keys_merge hb, has, find?_nil]
  · intro e he
    rw [find?_merge (hwf.keys e he) hb]
    cases b.find? e.1 with
    | none => rfl
    | some v => simp [find?_nil, Node.mergeOver_none]

theorem merge_self {b : Mapping} : b.WellFormed → b.merge b = b := by
  induction b using induct with
  | step b ih =>
    intro hb
    have hwf : (b.merge b).WellFormed := hb.merge hb
    refine hwf.eq_of_find? ?_ ?_
    · have hnone : (b.map Prod.fst).filter (fun key => !b.has key) = [] := by
        rw [List.filter_eq_nil_iff]
        intro k hk
        obtain ⟨e, he, rfl⟩ := List.mem_map.mp hk
        simp [has_of_mem he]
      rw [keys_merge hb, hnone, List.append_nil]
    · intro e he
      rw [find?_merge (hwf.keys e he) hb]
      cases hv : b.find? e.1 with
      | none => rfl
      | some v =>
        show some (Node.mergeOver (some v) v) = some v
        cases v with
        | map inner =>
          rw [Node.mergeOver_maps, ih _ inner hv (hb.inner hv)]
        | _ => rfl

/-! ## Merging three -/

theorem exists_map_of_at?_cons {k v : Node} {rest : List Node} {m : Mapping} (hr : rest ≠ [])
    (h : m.at? (k :: rest) = some v) :
    ∃ inner : Mapping, m.find? k = some (.map inner) ∧ inner.at? rest = some v := by
  cases hk : m.find? k with
  | none =>
    rw [at?_of_find?_none hk] at h
    cases h
  | some n =>
    cases hn : n.isMapping with
    | false =>
      rw [at?_of_find?_other hk hn hr] at h
      cases h
    | true =>
      obtain ⟨inner, rfl⟩ := Node.isMapping_iff.mp hn
      rw [at?_of_find?_map hk hr] at h
      exact ⟨inner, rfl, h⟩

/-- What a path leads to in a mapping under a key is found by the key and then the
path. -/
theorem at?_cons_of_map {k v : Node} {path : List Node} {m inner : Mapping}
    (hk : m.find? k = some (.map inner)) (h : inner.at? path = some v) :
    m.at? (k :: path) = some v := by
  have hne : path ≠ [] := by
    rintro rfl
    cases h
  rw [at?_of_find?_map hk hne, h]

/-- Under some path of keys the first mapping has a value that is no mapping, and
the second one has a mapping. -/
def ReopenedBy (b c : Mapping) : Prop :=
  ∃ path v inner, (∀ key ∈ path, key.WellFormed) ∧ b.at? path = some v ∧ v.isMapping = false ∧
    c.at? path = some (.map inner)

variable {a b c : Mapping}

theorem not_reopenedBy_self (b : Mapping) : ¬ b.ReopenedBy b := by
  rintro ⟨path, v, inner, -, hv, hmapping, hinner⟩
  rw [hv] at hinner
  cases hinner
  cases hmapping

/-- A value is reopened under a key that both have, at once or further down. -/
theorem reopenedBy_iff : b.ReopenedBy c ↔ ∃ k v ic, k.WellFormed ∧ b.find? k = some v ∧
    c.find? k = some (.map ic) ∧ ∀ ib, v = .map ib → ReopenedBy ib ic := by
  constructor
  · rintro ⟨path, v, inner, hp, hbv, hv, hci⟩
    match path, hp with
    | [], _ => cases hbv
    | [k], hp =>
      refine ⟨k, v, inner, hp k List.mem_cons_self, hbv, hci, ?_⟩
      rintro ib rfl
      cases hv
    | k :: next :: rest, hp =>
      rw [List.forall_mem_cons] at hp
      obtain ⟨ib, hbk, hib⟩ := exists_map_of_at?_cons (List.cons_ne_nil next rest) hbv
      obtain ⟨ic, hck, hic⟩ := exists_map_of_at?_cons (List.cons_ne_nil next rest) hci
      refine ⟨k, .map ib, ic, hp.1, hbk, hck, ?_⟩
      rintro _ ⟨⟩
      exact ⟨next :: rest, v, inner, hp.2, hib, hv, hic⟩
  · rintro ⟨k, v, ic, hk, hbk, hck, hunder⟩
    cases hv : v.isMapping with
    | false => exact ⟨[k], v, ic, by simpa using hk, hbk, hv, hck⟩
    | true =>
      obtain ⟨ib, rfl⟩ := Node.isMapping_iff.mp hv
      obtain ⟨path, u, inner, hp, hbu, hu, hci⟩ := hunder ib rfl
      exact ⟨k :: path, u, inner, List.forall_mem_cons.mpr ⟨hk, hp⟩, at?_cons_of_map hbk hbu, hu,
        at?_cons_of_map hck hci⟩

/-- Where nothing is reopened, a mapping follows only a mapping. -/
theorem exists_map_of_not_reopenedBy {k v : Node} {ic : Mapping} (h : ¬ b.ReopenedBy c)
    (hk : k.WellFormed) (hbk : b.find? k = some v) (hck : c.find? k = some (.map ic)) :
    ∃ ib, v = .map ib ∧ ¬ ReopenedBy ib ic := by
  apply Classical.byContradiction
  intro hnone
  refine h (reopenedBy_iff.mpr ⟨k, v, ic, hk, hbk, hck, fun ib hv => ?_⟩)
  exact Classical.byContradiction fun hib => hnone ⟨ib, hv, hib⟩

/-- A mapping over a mapping over whatever was there, merged from the left and
from the right. -/
theorem mergeOver_assoc {old : Option Node}
    (h : ∀ a, old = some (.map a) → merge (merge a b) c = merge a (merge b c)) :
    Node.mergeOver (some (Node.mergeOver old (.map b))) (.map c) =
      Node.mergeOver old (.map (merge b c)) := by
  rcases Node.mergeOver_map old b with ⟨a, rfl, -⟩ | ⟨hnone, hover⟩
  · simp only [Node.mergeOver_maps, h a rfl]
  · -- What is no mapping gives way to the two others either way.
    rw [hover, Node.mergeOver_of_no_mapping hnone, Node.mergeOver_maps]

/-- What three mappings leave under a key that the last two have, merged from the
left. -/
theorem find?_merge_left {k v w : Node} (hk : k.WellFormed) (hb : b.WellFormed)
    (hc : c.WellFormed) (hbk : b.find? k = some v) (hck : c.find? k = some w) (a : Mapping) :
    ((a.merge b).merge c).find? k =
      some (Node.mergeOver (some (Node.mergeOver (a.find? k) v)) w) := by
  rw [find?_merge hk hc, find?_merge hk hb, hbk, hck]

/-- And merged from the right. -/
theorem find?_merge_right {k v w : Node} (hk : k.WellFormed) (hb : b.WellFormed)
    (hc : c.WellFormed) (hbk : b.find? k = some v) (hck : c.find? k = some w) (a : Mapping) :
    (a.merge (b.merge c)).find? k =
      some (Node.mergeOver (a.find? k) (Node.mergeOver (some v) w)) := by
  rw [find?_merge hk (hb.merge hc), find?_merge hk hc, hbk, hck]

/-- The keys come in the same order from the left and from the right. -/
theorem keys_merge_assoc (hb : b.WellFormed) (hc : c.WellFormed) (a : Mapping) :
    ((a.merge b).merge c).map Prod.fst = (a.merge (b.merge c)).map Prod.fst := by
  have hnew : (c.map Prod.fst).filter (fun key => !(a.merge b).has key) =
      (c.map Prod.fst).filter fun key => !a.has key && !b.has key := by
    refine List.filter_congr fun k hk => ?_
    obtain ⟨e, he, rfl⟩ := List.mem_map.mp hk
    rw [has_merge (hc.keys e he) hb, Bool.not_or]
  calc ((a.merge b).merge c).map Prod.fst
      = (a.map Prod.fst ++ (b.map Prod.fst).filter fun key => !a.has key) ++
          (c.map Prod.fst).filter fun key => !a.has key && !b.has key := by
        rw [keys_merge hc, keys_merge hb, hnew]
    _ = a.map Prod.fst ++ (b.map Prod.fst ++ (c.map Prod.fst).filter fun key => !b.has key).filter
          fun key => !a.has key := by
        rw [List.filter_append, List.filter_filter, List.append_assoc]
    _ = (a.merge (b.merge c)).map Prod.fst := by
        rw [keys_merge (hb.merge hc), keys_merge hc]

theorem merge_assoc : ∀ {a b : Mapping}, a.WellFormed → b.WellFormed → c.WellFormed →
    ¬ b.ReopenedBy c → (a.merge b).merge c = a.merge (b.merge c) := by
  induction c using induct with
  | step c ih =>
    intro a b ha hb hc hclosed
    have hwf : ((a.merge b).merge c).WellFormed := (ha.merge hb).merge hc
    have hbc : (b.merge c).WellFormed := hb.merge hc
    refine hwf.eq_of_find? (keys_merge_assoc hb hc a) fun e he => ?_
    have hk : e.1.WellFormed := hwf.keys e he
    cases hck : c.find? e.1 with
    | none => simp only [find?_merge hk hc, find?_merge hk hb, find?_merge hk hbc, hck]
    | some w =>
      cases hbk : b.find? e.1 with
      | none =>
        simp only [find?_merge hk hc, find?_merge hk hb, find?_merge hk hbc, hck, hbk,
          Node.mergeOver_none]
      | some v =>
        rw [find?_merge_left hk hb hc hbk hck, find?_merge_right hk hb hc hbk hck]
        cases hw : w.isMapping with
        | false => simp only [Node.mergeOver_of_not_mapping hw]
        | true =>
          obtain ⟨ic, rfl⟩ := Node.isMapping_iff.mp hw
          obtain ⟨ib, rfl, hinner⟩ := exists_map_of_not_reopenedBy hclosed hk hbk hck
          have hassoc : ∀ ia, a.find? e.1 = some (.map ia) →
              merge (merge ia ib) ic = merge ia (merge ib ic) := by
            intro ia hia
            exact ih _ ic hck (ha.inner hia) (hb.inner hbk) (hc.inner hck) hinner
          rw [mergeOver_assoc hassoc, Node.mergeOver_maps]

/-- What was merged is there already when it is merged a second time. -/
theorem merge_merge_self (ha : a.WellFormed) (hb : b.WellFormed) :
    (a.merge b).merge b = a.merge b :=
  calc (a.merge b).merge b
      = a.merge (b.merge b) := merge_assoc ha hb hb (not_reopenedBy_self b)
    _ = a.merge b := by rw [merge_self hb]

/-! ## Where the order of merging counts -/

/-- Every mapping can be merged over one that leaves a trace. -/
theorem exists_merge_ne (hc : c.WellFormed) : ∃ a : Mapping, a.WellFormed ∧ a.merge c ≠ c := by
  -- A key that is not the first one of `c` comes first if it was there before.
  have htrace : ∀ key : Node, key.WellFormed → (c.map Prod.fst).head? ≠ some key →
      ∃ a : Mapping, a.WellFormed ∧ a.merge c ≠ c := by
    intro key hkey hne
    refine ⟨[(key, .null)], WellFormed.single hkey .null, fun h => hne ?_⟩
    rw [← h, keys_merge hc]
    rfl
  by_cases hnull : (c.map Prod.fst).head? = some .null
  · exact htrace (.bool true) (.bool true) (by simp [hnull])
  · exact htrace .null .null hnull

/-- Over some mapping, two that reopen a value are merged differently from the
left and from the right. -/
theorem exists_merge_ne_of_reopened : ∀ {b : Mapping}, b.WellFormed → c.WellFormed →
    b.ReopenedBy c →
    ∃ a : Mapping, a.WellFormed ∧ (a.merge b).merge c ≠ a.merge (b.merge c) := by
  induction c using induct with
  | step c ih =>
    intro b hb hc hreopened
    obtain ⟨k, v, ic, hk, hbk, hck, hunder⟩ := reopenedBy_iff.mp hreopened
    have hic : Mapping.WellFormed ic := hc.inner hck
    -- It is enough that the values under `k` differ.
    have hdiffer : ∀ a : Mapping, a.WellFormed →
        Node.mergeOver (some (Node.mergeOver (some (.map a)) v)) (.map ic) ≠
          Node.mergeOver (some (.map a)) (Node.mergeOver (some v) (.map ic)) →
        ∃ a : Mapping, a.WellFormed ∧ (a.merge b).merge c ≠ a.merge (b.merge c) := by
      intro a ha hne
      refine ⟨[(k, .map a)], .single hk (wellFormed_iff.mpr ha), fun h => hne ?_⟩
      have hvalue := congrArg (find? k) h
      rw [find?_merge_left hk hb hc hbk hck, find?_merge_right hk hb hc hbk hck,
        find?_cons_self] at hvalue
      exact Option.some.inj hvalue
    cases hv : v.isMapping with
    | false =>
      -- From the left the value hides what `a` has; from the right nothing does.
      have hopen : Node.mergeOver (some v) (.map ic) = .map ic :=
        Node.mergeOver_of_no_mapping (by simpa using hv) ic
      obtain ⟨a, ha, hne⟩ := exists_merge_ne hic
      refine hdiffer a ha fun h => hne ?_
      rw [Node.mergeOver_of_not_mapping hv, hopen, Node.mergeOver_maps] at h
      exact (Node.map.inj h).symm
    | true =>
      obtain ⟨ib, rfl⟩ := Node.isMapping_iff.mp hv
      obtain ⟨a, ha, hne⟩ := ih _ ic hck (hb.inner hbk) hic (hunder ib rfl)
      refine hdiffer a ha fun h => hne ?_
      simp only [Node.mergeOver_maps] at h
      exact Node.map.inj h

end Mapping

namespace Configuration

/-- The empty configuration is neutral; merging twice is merging once; the keys of
the first configuration come first, then those only the second has; and three
configurations, of which the last reopens no value of the second, are merged from
the left as from the right. If it does reopen one, that does not hold of all first
configurations. -/
theorem merge_laws {a b c : Configuration} (ha : a.root.WellFormed) (hb : b.root.WellFormed)
    (hc : c.root.WellFormed) :
    empty.merge a = a ∧ a.merge empty = a ∧
    (a.merge b).merge b = a.merge b ∧
    (a.merge b).root.map Prod.fst =
      a.root.map Prod.fst ++ (b.root.map Prod.fst).filter (fun key => !a.root.has key) ∧
    (¬ b.root.ReopenedBy c.root → (a.merge b).merge c = a.merge (b.merge c)) ∧
    (b.root.ReopenedBy c.root → ∃ d : Configuration, d.root.WellFormed ∧
      (d.merge b).merge c ≠ d.merge (b.merge c)) := by
  refine ⟨?_, rfl, ?_, Mapping.keys_merge hb a.root, fun h => ?_, fun h => ?_⟩
  · exact congrArg Configuration.mk (Mapping.nil_merge ha)
  · exact congrArg Configuration.mk (Mapping.merge_merge_self ha hb)
  · exact congrArg Configuration.mk (Mapping.merge_assoc ha hb hc h)
  · obtain ⟨d, hd, hne⟩ := Mapping.exists_merge_ne_of_reopened hb hc h
    exact ⟨⟨d⟩, hd, fun heq => hne (congrArg root heq)⟩

/-- A configuration of one section with one entry. -/
def oneEntry (name : String) (value : Node) : Configuration :=
  ⟨[(.text "section", .map [(.text name, value)])]⟩

theorem oneEntry_wellFormed (name : String) {value : Node} (hv : value.WellFormed) :
    (oneEntry name value).root.WellFormed :=
  .single (.text _) (Mapping.wellFormed_iff.mpr (.single (.text name) hv))

theorem not_reopenedBy_oneEntry (name name' : String) (value value' : Node)
    (hv : value'.isMapping = false) :
    ¬ (oneEntry name value).root.ReopenedBy (oneEntry name' value').root := by
  intro h
  obtain ⟨k, v, ic, -, hv', hc, hunder⟩ := Mapping.reopenedBy_iff.mp h
  obtain ⟨_, hmem, -⟩ := Mapping.mem_of_find? hv'
  obtain ⟨-, rfl⟩ : _ ∧ v = .map [(.text name, value)] := by simpa [oneEntry] using hmem
  obtain ⟨_, hmem, -⟩ := Mapping.mem_of_find? hc
  obtain ⟨-, rfl⟩ : _ ∧ ic = [(.text name', value')] := by simpa [oneEntry] using hmem
  obtain ⟨_, _, inner, -, -, hc, -⟩ := Mapping.reopenedBy_iff.mp (hunder _ rfl)
  obtain ⟨_, hmem, -⟩ := Mapping.mem_of_find? hc
  obtain ⟨-, rfl⟩ : _ ∧ Node.map inner = value' := by simpa using hmem
  cases hv

/-- A section in three configurations: the last replaces an entry of the first, and
the result is the same either way. -/
theorem merge_laws_oneEntry :
    let first := oneEntry "a" .null
    let second := oneEntry "b" (.int 1)
    let third := oneEntry "a" (.bool true)
    first.root.WellFormed ∧ second.root.WellFormed ∧ third.root.WellFormed ∧
    ¬ second.root.ReopenedBy third.root ∧
    (first.merge second).merge third = first.merge (second.merge third) ∧
    ((first.merge second).merge third).root =
      [(.text "section", .map [(.text "a", .bool true), (.text "b", .int 1)])] := by
  intro first second third
  have hfirst : first.root.WellFormed := oneEntry_wellFormed "a" .null
  have hsecond : second.root.WellFormed := oneEntry_wellFormed "b" (.int 1)
  have hthird : third.root.WellFormed := oneEntry_wellFormed "a" (.bool true)
  have hclosed := not_reopenedBy_oneEntry "b" "a" (.int 1) (.bool true) rfl
  obtain ⟨-, -, -, -, hassoc, -⟩ := merge_laws hfirst hsecond hthird
  exact ⟨hfirst, hsecond, hthird, hclosed, hassoc hclosed, rfl⟩

end Configuration

end TelemetrySidecar
