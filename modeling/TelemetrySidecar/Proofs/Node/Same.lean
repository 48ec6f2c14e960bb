import TelemetrySidecar.Node.Basic

/-
  Sameness of nodes

  `Node.same` looks for every entry of one mapping in the other and compares
  how many there are, so for arbitrary lists of entries it is no equivalence:
  a mapping that has a key twice may find all its entries in a mapping that has
  more. It is one on the nodes a document can have, those in which no mapping
  has a key twice (`WellFormed`).

  What is proved:
    1. `same_refl`, `same_trans`: for all nodes;
    2. `same_symm`: where the first node is well-formed. Keys
       that are apart find different partners, and as many entries as there are
       on the other side leave none of them without one (`exists_partner`);
    3. `same_congr`: nodes that are the same are the same as the same nodes.
-/

namespace TelemetrySidecar

/-- If each of some things has a partner among at most as many others, and no
two share one, then each of the others is the partner of one of them. -/
theorem exists_partner {α β : Type} {R : α → β → Prop} :
    ∀ {as : List α} {bs : List β}, bs.length ≤ as.length → (∀ a ∈ as, ∃ b ∈ bs, R a b) →
    as.Pairwise (fun a a' => ∀ b, R a b → ¬ R a' b) → ∀ b ∈ bs, ∃ a ∈ as, R a b
  | [], bs, hl, _, _, b, hb => by
    have : bs = [] := List.eq_nil_of_length_eq_zero (by simpa using hl)
    simp [this] at hb
  | a :: as, bs, hl, hp, hd, b, hb => by
    obtain ⟨b₀, hb₀, hR⟩ := hp a List.mem_cons_self
    obtain ⟨s, t, rfl⟩ := List.append_of_mem hb₀
    rw [List.pairwise_cons] at hd
    obtain ⟨hda, hd⟩ := hd
    -- All others have their partners among what is left without `b₀`.
    have hrest : ∀ a' ∈ as, ∃ b ∈ s ++ t, R a' b := by
      intro a' ha'
      obtain ⟨b', hb', hR'⟩ := hp a' (List.mem_cons_of_mem a ha')
      have hne : b' ≠ b₀ := fun h => hda a' ha' b₀ hR (h ▸ hR')
      exact ⟨b', by simpa [hne] using hb', hR'⟩
    have hlen : (s ++ t).length ≤ as.length := by
      simp at hl ⊢; omega
    by_cases hbb : b = b₀
    · exact ⟨a, List.mem_cons_self, hbb ▸ hR⟩
    · obtain ⟨a', ha', hR'⟩ := exists_partner hlen hrest hd b (by simpa [hbb] using hb)
      exact ⟨a', List.mem_cons_of_mem a ha', hR'⟩

namespace Binary64

theorem same_iff {x y : Binary64} : x.same y = true ↔
    (x.isNaN = true ∧ y.isNaN = true) ∨
    (x.isNaN = false ∧ y.isNaN = false ∧ (x = y ∨ (x.isZero = true ∧ y.isZero = true))) := by
  have hbits : (x.bits == y.bits) = true ↔ x = y := by
    cases x; cases y; simp
  cases hx : x.isNaN <;> cases hy : y.isNaN <;> simp [same, hx, hy, ← hbits]

theorem same_symm {x y : Binary64} (h : x.same y = true) : y.same x = true := by
  rw [same_iff] at h ⊢
  rcases h with ⟨hx, hy⟩ | ⟨hx, hy, rfl | ⟨hzx, hzy⟩⟩
  · exact .inl ⟨hy, hx⟩
  · exact .inr ⟨hx, hy, .inl rfl⟩
  · exact .inr ⟨hy, hx, .inr ⟨hzy, hzx⟩⟩

theorem same_trans {x y z : Binary64} (h : x.same y = true) (h' : y.same z = true) :
    x.same z = true := by
  rw [same_iff] at h h' ⊢
  rcases h with ⟨hx, hy⟩ | ⟨hx, hy, rfl | ⟨hzx, hzy⟩⟩
  · simp_all
  · exact h'
  · rcases h' with ⟨hy', _⟩ | ⟨_, hz, rfl | ⟨_, hzz⟩⟩
    · simp_all
    · exact .inr ⟨hx, hz, .inr ⟨hzx, hzy⟩⟩
    · exact .inr ⟨hx, hz, .inr ⟨hzx, hzz⟩⟩

end Binary64

namespace Node

/-- Induction on a node, with the hypothesis for all items, keys and values. -/
@[elab_as_elim]
theorem induct {P : Node → Prop} (null : P .null) (bool : ∀ b, P (.bool b))
    (int : ∀ i, P (.int i)) (float : ∀ x, P (.float x)) (text : ∀ s, P (.text s))
    (seq : ∀ items, (∀ i ∈ items, P i) → P (.seq items))
    (map : ∀ entries, (∀ e ∈ entries, P e.1) → (∀ e ∈ entries, P e.2) → P (.map entries))
    (tagged : ∀ tag value, P value → P (.tagged tag value)) (node : Node) : P node := by
  refine Node.rec (motive_1 := P) (motive_2 := fun items => ∀ i ∈ items, P i)
    (motive_3 := fun entries => (∀ e ∈ entries, P e.1) ∧ ∀ e ∈ entries, P e.2)
    (motive_4 := fun e => P e.1 ∧ P e.2) null bool int float text seq
    (fun entries ih => map entries ih.1 ih.2) tagged ?_ ?_ ?_ ?_ ?_ node
  · simp
  · intro item items hitem hitems
    exact List.forall_mem_cons.mpr ⟨hitem, hitems⟩
  · simp
  · intro e entries he hentries
    exact ⟨List.forall_mem_cons.mpr ⟨he.1, hentries.1⟩, List.forall_mem_cons.mpr ⟨he.2, hentries.2⟩⟩
  · intro k v hk hv
    exact ⟨hk, hv⟩

/-- No mapping anywhere in the node has a key twice. -/
inductive WellFormed : Node → Prop where
  | null : WellFormed .null
  | bool (b : Bool) : WellFormed (.bool b)
  | int (i : Int) : WellFormed (.int i)
  | float (x : Binary64) : WellFormed (.float x)
  | text (s : String) : WellFormed (.text s)
  | seq {items : List Node} (each : ∀ i ∈ items, WellFormed i) : WellFormed (.seq items)
  | map {entries : List (Node × Node)} (keys : ∀ e ∈ entries, WellFormed e.1)
      (values : ∀ e ∈ entries, WellFormed e.2)
      (apart : entries.Pairwise fun e f => e.1.same f.1 = false) : WellFormed (.map entries)
  | tagged (tag : String) {value : Node} (under : WellFormed value) :
      WellFormed (.tagged tag value)

/-! ## One constructor at a time -/

theorem same_texts (a b : String) : (Node.text a).same (.text b) = (a == b) := rfl

theorem same_maps (a b : List (Node × Node)) :
    (Node.map a).same (.map b) = (a.length == b.length && eachIn a b) := rfl

theorem same_taggeds (t u : String) (v w : Node) :
    (Node.tagged t v).same (.tagged u w) = (t == u && v.same w) := rfl

theorem sameItems_cons (a b : Node) (as bs : List Node) :
    sameItems (a :: as) (b :: bs) = (a.same b && sameItems as bs) := rfl

theorem eachIn_cons (e : Node × Node) (a b : List (Node × Node)) :
    eachIn (e :: a) b = ((b.any fun f => e.1.same f.1 && e.2.same f.2) && eachIn a b) := rfl

/-- Whether a node is neither a float, of which some are the same without being equal,
nor made of other nodes. -/
def isExact : Node → Bool
  | null | bool _ | int _ | text _ => true
  | _ => false

/-- An exact node is the same as itself only. -/
theorem same_iff_of_isExact {a n : Node} (h : a.isExact = true) : a.same n = true ↔ n = a := by
  cases a with
  | null =>
    cases n with
    | null => exact iff_of_true rfl rfl
    | _ => exact iff_of_false nofun nofun
  | bool b =>
    cases n with
    | bool c => exact beq_iff_eq.trans ⟨fun h => h ▸ rfl, fun h => (bool.inj h).symm⟩
    | _ => exact iff_of_false nofun nofun
  | int i =>
    cases n with
    | int j => exact beq_iff_eq.trans ⟨fun h => h ▸ rfl, fun h => (int.inj h).symm⟩
    | _ => exact iff_of_false nofun nofun
  | text s =>
    cases n with
    | text t => exact beq_iff_eq.trans ⟨fun h => h ▸ rfl, fun h => (text.inj h).symm⟩
    | _ => exact iff_of_false nofun nofun
  | float | seq | map | tagged => cases h

theorem same_text_iff {s : String} {n : Node} : (Node.text s).same n = true ↔ n = .text s :=
  same_iff_of_isExact rfl

theorem same_float_iff {x : Binary64} {n : Node} :
    (Node.float x).same n = true ↔ ∃ y, n = .float y ∧ x.same y = true := by
  cases n with
  | float y => exact ⟨fun h => ⟨y, rfl, h⟩, by rintro ⟨_, ⟨⟩, h⟩; exact h⟩
  | _ => exact iff_of_false nofun nofun

theorem same_seq_iff {a : List Node} {n : Node} :
    (Node.seq a).same n = true ↔ ∃ b, n = .seq b ∧ sameItems a b = true := by
  cases n with
  | seq b => exact ⟨fun h => ⟨b, rfl, h⟩, by rintro ⟨_, ⟨⟩, h⟩; exact h⟩
  | _ => exact iff_of_false nofun nofun

theorem eachIn_iff {a b : List (Node × Node)} :
    eachIn a b = true ↔ ∀ e ∈ a, ∃ f ∈ b, e.1.same f.1 = true ∧ e.2.same f.2 = true := by
  induction a with
  | nil => exact iff_of_true rfl nofun
  | cons e a ih => simp [eachIn_cons, ih]

theorem same_map_iff {a : List (Node × Node)} {n : Node} :
    (Node.map a).same n = true ↔ ∃ b, n = .map b ∧ a.length = b.length ∧
      ∀ e ∈ a, ∃ f ∈ b, e.1.same f.1 = true ∧ e.2.same f.2 = true := by
  cases n with
  | map b => simp [same_maps, eachIn_iff]
  | _ => exact iff_of_false nofun nofun

theorem same_tagged_iff {t : String} {v n : Node} :
    (Node.tagged t v).same n = true ↔ ∃ w, n = .tagged t w ∧ v.same w = true := by
  cases n with
  | tagged u w =>
    simp only [same_taggeds, Bool.and_eq_true, beq_iff_eq, tagged.injEq]
    constructor
    · rintro ⟨rfl, h⟩
      exact ⟨w, ⟨rfl, rfl⟩, h⟩
    · rintro ⟨_, ⟨rfl, rfl⟩, h⟩
      exact ⟨rfl, h⟩
  | _ => exact iff_of_false nofun nofun

/-! ## Reflexivity and transitivity -/

theorem same_refl (n : Node) : n.same n = true := by
  induction n using induct with
  | null | bool | int | text => exact (same_iff_of_isExact rfl).mpr rfl
  | float x => exact same_float_iff.mpr ⟨x, rfl, by simp [Binary64.same_iff]⟩
  | seq items ih =>
    refine same_seq_iff.mpr ⟨items, rfl, ?_⟩
    induction items with
    | nil => rfl
    | cons item items ihs =>
      rw [List.forall_mem_cons] at ih
      simp [sameItems_cons, ih.1, ihs ih.2]
  | map entries ihk ihv =>
    exact same_map_iff.mpr ⟨entries, rfl, rfl, fun e he => ⟨e, he, ihk e he, ihv e he⟩⟩
  | tagged tag value ih => exact same_tagged_iff.mpr ⟨value, rfl, ih⟩

theorem sameItems_trans {as : List Node}
    (ih : ∀ a ∈ as, ∀ b c : Node, a.same b = true → b.same c = true → a.same c = true) :
    ∀ {bs cs : List Node}, sameItems as bs = true → sameItems bs cs = true →
      sameItems as cs = true := by
  induction as with
  | nil =>
    intro bs cs h h'
    cases bs with
    | nil => exact h'
    | cons b bs => cases h
  | cons a as ihs =>
    intro bs cs h h'
    cases bs with
    | nil => cases h
    | cons b bs =>
      cases cs with
      | nil => cases h'
      | cons c cs =>
        simp only [sameItems_cons, Bool.and_eq_true] at h h' ⊢
        rw [List.forall_mem_cons] at ih
        exact ⟨ih.1 b c h.1 h'.1, ihs ih.2 h.2 h'.2⟩

theorem same_trans (a : Node) :
    ∀ b c : Node, a.same b = true → b.same c = true → a.same c = true := by
  induction a using induct with
  | null | bool | int | text =>
    intro b c h h'
    rwa [(same_iff_of_isExact rfl).mp h] at h'
  | float x =>
    intro b c h h'
    obtain ⟨y, rfl, hxy⟩ := same_float_iff.mp h
    obtain ⟨z, rfl, hyz⟩ := same_float_iff.mp h'
    exact same_float_iff.mpr ⟨z, rfl, Binary64.same_trans hxy hyz⟩
  | seq as ih =>
    intro b c h h'
    obtain ⟨bs, rfl, hab⟩ := same_seq_iff.mp h
    obtain ⟨cs, rfl, hbc⟩ := same_seq_iff.mp h'
    exact same_seq_iff.mpr ⟨cs, rfl, sameItems_trans ih hab hbc⟩
  | map as ihk ihv =>
    intro b c h h'
    obtain ⟨bs, rfl, hlab, hab⟩ := same_map_iff.mp h
    obtain ⟨cs, rfl, hlbc, hbc⟩ := same_map_iff.mp h'
    refine same_map_iff.mpr ⟨cs, rfl, hlab.trans hlbc, ?_⟩
    intro e he
    obtain ⟨f, hf, hk, hv⟩ := hab e he
    obtain ⟨g, hg, hk', hv'⟩ := hbc f hf
    exact ⟨g, hg, ihk e he _ _ hk hk', ihv e he _ _ hv hv'⟩
  | tagged t v ih =>
    intro b c h h'
    obtain ⟨w, rfl, hvw⟩ := same_tagged_iff.mp h
    obtain ⟨x, rfl, hwx⟩ := same_tagged_iff.mp h'
    exact same_tagged_iff.mpr ⟨x, rfl, ih w x hvw hwx⟩

/-! ## Symmetry -/

theorem sameItems_symm {as : List Node}
    (ih : ∀ a ∈ as, ∀ b : Node, a.same b = true → b.same a = true) :
    ∀ {bs : List Node}, sameItems as bs = true → sameItems bs as = true := by
  induction as with
  | nil =>
    intro bs h
    cases bs with
    | nil => exact h
    | cons b bs => cases h
  | cons a as ihs =>
    intro bs h
    cases bs with
    | nil => cases h
    | cons b bs =>
      simp only [sameItems_cons, Bool.and_eq_true] at h ⊢
      rw [List.forall_mem_cons] at ih
      exact ⟨ih.1 b h.1, ihs ih.2 h.2⟩

theorem same_symm {a : Node} (ha : a.WellFormed) : ∀ b : Node, a.same b = true → b.same a = true := by
  induction ha with
  | null | bool | int | text =>
    intro b h
    rw [(same_iff_of_isExact rfl).mp h]
    exact same_refl _
  | float x =>
    intro b h
    obtain ⟨y, rfl, hxy⟩ := same_float_iff.mp h
    exact same_float_iff.mpr ⟨x, rfl, Binary64.same_symm hxy⟩
  | @seq as _ ih =>
    intro b h
    obtain ⟨bs, rfl, hab⟩ := same_seq_iff.mp h
    exact same_seq_iff.mpr ⟨as, rfl, sameItems_symm ih hab⟩
  | @map as _ _ apart ihk ihv =>
    intro b h
    obtain ⟨bs, rfl, hl, hab⟩ := same_map_iff.mp h
    refine same_map_iff.mpr ⟨as, rfl, hl.symm, ?_⟩
    -- Keys that are apart have no partner in common.
    have hd : as.Pairwise fun e e' => ∀ f : Node × Node,
        (e.1.same f.1 = true ∧ e.2.same f.2 = true) → ¬ (e'.1.same f.1 = true ∧ e'.2.same f.2 = true) := by
      refine apart.imp_of_mem fun {e e'} _ he' hne f hf hf' => ?_
      have hee' := same_trans e.1 f.1 e'.1 hf.1 (ihk e' he' f.1 hf'.1)
      simp [hne] at hee'
    intro f hf
    obtain ⟨e, he, hk, hv⟩ := exists_partner (Nat.le_of_eq hl.symm) hab hd f hf
    exact ⟨e, he, ihk e he f.1 hk, ihv e he f.2 hv⟩
  | tagged t _ ih =>
    intro b h
    obtain ⟨w, rfl, hvw⟩ := same_tagged_iff.mp h
    exact same_tagged_iff.mpr ⟨_, rfl, ih w hvw⟩

theorem same_congr {a b : Node} (ha : a.WellFormed) (h : a.same b = true) (n : Node) :
    a.same n = b.same n := by
  rw [Bool.eq_iff_iff]
  exact ⟨same_trans b a n (same_symm ha b h), same_trans a b n h⟩

end Node

end TelemetrySidecar
