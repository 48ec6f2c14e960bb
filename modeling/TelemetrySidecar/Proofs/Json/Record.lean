import Mathlib.Data.List.Perm.Basic
import TelemetrySidecar.Proofs.Json.Whole

/-
  Records from objects

  What is proved: an object is read as a record exactly if each member has a name, no field
  comes twice, each field is read and what is no field can be passed over
  (`Tree.record_object_iff`). So a record that asks for its fields by name is read the same
  of an object whose members are reordered, and joined or left by members that are no
  fields (`Tree.record_of_revised`), and of one that has each field once
  (`Tree.record_named`).
-/

namespace TelemetrySidecar.Json

/-! ## Revision of an object -/

/-- The second list of members arises from the first by changing the order, and by
adding and removing members whose names are none of `names`. -/
inductive Revised (names : List String) : Members → Members → Prop where
  | permuted {ms ms' : Members} (order : ms.Perm ms') : Revised names ms ms'
  | added {ms : Members} {name : List Char} {value : Tree}
      (unknown : String.ofList name ∉ names) : Revised names ms ((.ok name, value) :: ms)
  | removed {ms : Members} {name : List Char} {value : Tree}
      (unknown : String.ofList name ∉ names) : Revised names ((.ok name, value) :: ms) ms
  | later {ms ms' ms'' : Members} (first : Revised names ms ms')
      (second : Revised names ms' ms'') : Revised names ms ms''

/-! ## Fields among members -/

/-- The field a member is, if it has one of the names. -/
def field? (names : List String) (m : Except Fault (List Char) × Tree) : Option (String × Tree) :=
  match m.1 with
  | .ok name => if names.contains (String.ofList name) then some (String.ofList name, m.2) else none
  | .error _ => none

/-- The fields among members, in order. -/
def fieldsOf (names : List String) (ms : Members) : List (String × Tree) :=
  ms.filterMap (field? names)

/-- A member with a name; if its name is none of `names`, its value is such as `admits` says. -/
def Legible (names : List String) (admits : Tree → Prop) (m : Except Fault (List Char) × Tree) :
    Prop :=
  ∃ name, m.1 = .ok name ∧ (String.ofList name ∉ names → admits m.2)

/-- What is read of a field, under the same name. -/
def ReadAs {α : Type} (reads : String → Tree → α → Prop) (f : String × Tree) (g : String × α) :
    Prop :=
  f.1 = g.1 ∧ reads f.1 f.2 g.2

theorem legible_named {names : List String} {admits : Tree → Prop} {name : List Char}
    {value : Tree} :
    Legible names admits (.ok name, value) ↔ (String.ofList name ∉ names → admits value) := by
  simp [Legible]

theorem fieldsOf_cons_known {names : List String} {name : List Char} {value : Tree} {ms : Members}
    (known : String.ofList name ∈ names) :
    fieldsOf names ((.ok name, value) :: ms) =
      (String.ofList name, value) :: fieldsOf names ms := by
  simp [fieldsOf, field?, known]

theorem fieldsOf_cons_unknown {names : List String} {name : List Char} {value : Tree} {ms : Members}
    (unknown : String.ofList name ∉ names) :
    fieldsOf names ((.ok name, value) :: ms) = fieldsOf names ms := by
  simp [fieldsOf, field?, unknown]

namespace Revised

variable {names : List String} {ms ms' : Members}

theorem mono {fewer : List String} (h : Revised names ms ms') (among : fewer ⊆ names) :
    Revised fewer ms ms' := by
  induction h with
  | permuted order => exact .permuted order
  | added unknown => exact .added fun known => unknown (among known)
  | removed unknown => exact .removed fun known => unknown (among known)
  | later _ _ first second => exact .later first second

/-- A revision leaves the fields as they are, but for their order. -/
theorem fieldsOf (h : Revised names ms ms') :
    (Json.fieldsOf names ms).Perm (Json.fieldsOf names ms') := by
  induction h with
  | permuted order => exact order.filterMap _
  | added unknown => rw [fieldsOf_cons_unknown unknown]
  | removed unknown => rw [fieldsOf_cons_unknown unknown]
  | later _ _ first second => exact first.trans second

/-- A member with one of the names was there before. -/
theorem mem_of_known (h : Revised names ms ms') {name : List Char} {value : Tree}
    (known : String.ofList name ∈ names) : (.ok name, value) ∈ ms' → (.ok name, value) ∈ ms := by
  induction h with
  | permuted order => exact order.mem_iff.mpr
  | added unknown =>
    intro h
    rcases List.mem_cons.mp h with same | h
    · cases same
      exact absurd known unknown
    · exact h
  | removed _ => exact List.mem_cons_of_mem _
  | later _ _ first second => exact first ∘ second

/-- All members have names if they had before. -/
theorem exists_name (h : Revised names ms ms') (all : ∀ m ∈ ms, ∃ name, m.1 = .ok name) :
    ∀ m ∈ ms', ∃ name, m.1 = .ok name := by
  induction h with
  | permuted order => exact fun m hm => all m (order.mem_iff.mpr hm)
  | added _ => exact List.forall_mem_cons.mpr ⟨⟨_, rfl⟩, all⟩
  | removed _ => exact fun m hm => all m (List.mem_cons_of_mem _ hm)
  | later _ _ first second => exact second (first all)

theorem legible {tags : List String} {admits : Tree → Prop} (h : Revised names ms ms')
    (all : ∀ m ∈ ms, Legible tags admits m)
    (fit : ∀ name value, (.ok name, value) ∈ ms' → String.ofList name ∉ names → admits value) :
    ∀ m ∈ ms', Legible tags admits m := by
  intro m hm
  obtain ⟨name, hname⟩ := h.exists_name (fun m hm => (all m hm).imp fun _ h => h.1) m hm
  obtain ⟨_, value⟩ := m
  subst hname
  by_cases known : String.ofList name ∈ names
  · exact all _ (h.mem_of_known known hm)
  · exact ⟨name, rfl, fun _ => fit name value hm known⟩

end Revised

/-! ## Reading fields -/

variable {α : Type}

theorem Tree.namedFields_cons_known {names : List String} {read : String → Tree → Except Fault α}
    {seen : List String} {name : List Char} {value : Tree} {ms : Members}
    (known : String.ofList name ∈ names) :
    namedFields names read seen ((.ok name, value) :: ms) =
      if String.ofList name ∈ seen then .error .unfit
      else do
        let a ← read (String.ofList name) value
        let more ← namedFields names read (String.ofList name :: seen) ms
        return (String.ofList name, a) :: more := by
  simp [namedFields, bind, Except.bind, throw, throwThe, MonadExceptOf.throw, known]

theorem Tree.namedFields_cons_unknown {names : List String}
    {read : String → Tree → Except Fault α} {seen : List String} {name : List Char} {value : Tree}
    {ms : Members} (unknown : String.ofList name ∉ names) :
    namedFields names read seen ((.ok name, value) :: ms) =
      value.pass >>= fun _ => namedFields names read seen ms := by
  simp [namedFields, bind, Except.bind, unknown]

/-- The fields that are read are those among the members, each under its name, if no
name comes twice and what is no field can be passed over. -/
theorem Tree.namedFields_eq_ok_iff {names : List String} {read : String → Tree → Except Fault α} :
    ∀ {ms : Members} {seen : List String} {fields : List (String × α)},
    namedFields names read seen ms = .ok fields ↔
      (∀ m ∈ ms, Legible names Tree.Passes m) ∧
      ((fieldsOf names ms).map (·.1)).Nodup ∧ (∀ f ∈ fieldsOf names ms, f.1 ∉ seen) ∧
      List.Forall₂ (ReadAs fun name t a => read name t = .ok a) (fieldsOf names ms) fields := by
  intro ms
  induction ms with
  | nil =>
    intro seen fields
    simp only [namedFields, fieldsOf, List.filterMap_nil, Except.ok.injEq,
      List.forall₂_nil_left_iff, List.not_mem_nil, List.map_nil, List.nodup_nil]
    simp [eq_comm]
  | cons m ms ih =>
    intro seen fields
    obtain ⟨_ | name, value⟩ := m
    · -- A name that cannot be read ends the reading.
      constructor
      · intro h
        cases h
      · rintro ⟨legible, _⟩
        obtain ⟨name, named, _⟩ := legible _ List.mem_cons_self
        cases named
    · rw [List.forall_mem_cons, legible_named]
      by_cases known : String.ofList name ∈ names
      · rw [fieldsOf_cons_known known, namedFields_cons_known known, List.map_cons,
          List.nodup_cons, List.forall_mem_cons]
        by_cases again : String.ofList name ∈ seen
        · simp [again]
        · simp only [if_neg again, bind_eq_ok_iff, pure_eq_ok_iff, ih]
          constructor
          · -- A name that comes again would have been refused there, as seen before.
            rintro ⟨a, reads, more, ⟨legible, apart, fresh, described⟩, rfl⟩
            refine ⟨⟨fun unknown => absurd known unknown, legible⟩, ⟨?_, apart⟩, ⟨again, ?_⟩,
              .cons ⟨rfl, reads⟩ described⟩
            · intro twice
              obtain ⟨f, hf, same⟩ := List.mem_map.mp twice
              exact fresh f hf (same ▸ List.mem_cons_self)
            · exact fun f hf past => fresh f hf (List.mem_cons_of_mem _ past)
          · rintro ⟨⟨_, legible⟩, ⟨once, apart⟩, ⟨_, fresh⟩, described⟩
            obtain ⟨⟨_, a⟩, more, ⟨rfl, reads⟩, described', rfl⟩ :=
              List.forall₂_cons_left_iff.mp described
            refine ⟨a, reads, more, ⟨legible, apart, ?_, described'⟩, rfl⟩
            intro f hf past
            rcases List.mem_cons.mp past with same | past
            · exact once (List.mem_map.mpr ⟨f, hf, same⟩)
            · exact fresh f hf past
      · rw [fieldsOf_cons_unknown known, namedFields_cons_unknown known, bind_eq_ok_iff]
        simp only [ih]
        constructor
        · rintro ⟨_, passes, legible, others⟩
          exact ⟨⟨fun _ => passes, legible⟩, others⟩
        · rintro ⟨⟨passes, legible⟩, others⟩
          exact ⟨(), passes known, legible, others⟩

/-- An object is read as a record if and only if its fields are read and make the record. -/
theorem Tree.record_object_iff {β : Type} {depth : Nat} {names : List String}
    {read : Nat → String → Tree → Except Fault α} {build : List (String × α) → Option β}
    {ms : Members} {b : β} :
    record (depth + 1) names read build (.object ms .closed) = .ok b ↔
      (∀ m ∈ ms, Legible names Tree.Passes m) ∧
      ((fieldsOf names ms).map (·.1)).Nodup ∧
      ∃ fields, List.Forall₂ (ReadAs fun name t a => read depth name t = .ok a) (fieldsOf names ms)
        fields ∧ build fields = some b := by
  simp only [record, deeper, Ending.take, bind_eq_ok_iff, namedFields_eq_ok_iff]
  constructor
  · rintro ⟨_, ⟨⟩, fields, ⟨legible, apart, _, described⟩, _, _, made⟩
    refine ⟨legible, apart, fields, described, ?_⟩
    cases built : build fields with
    | none => simp [built] at made
    | some b' => simpa [built] using made
  · rintro ⟨legible, apart, fields, described, made⟩
    exact ⟨depth, rfl, fields, ⟨legible, apart, by simp, described⟩, (), trivial, by rw [made]⟩

/-- The members of an object that has these fields. -/
def named (fs : List (String × Tree)) : Members := fs.map fun f => (.ok f.1.toList, f.2)

theorem fieldsOf_named {names : List String} {fs : List (String × Tree)}
    (known : ∀ f ∈ fs, f.1 ∈ names) : fieldsOf names (named fs) = fs := by
  induction fs with
  | nil => rfl
  | cons f fs ih =>
    rw [List.forall_mem_cons] at known
    rw [named, List.map_cons, fieldsOf_cons_known (by simpa using known.1), String.ofList_toList]
    exact congrArg (f :: ·) (ih known.2)

/-- An object that has each field of a record once is read as what they make. -/
theorem Tree.record_named {β : Type} {depth : Nat} {names : List String}
    {read : Nat → String → Tree → Except Fault α} {build : List (String × α) → Option β}
    {fs : List (String × Tree)} (fields : List (String × α)) {b : β}
    (all : fs.map (·.1) = names) (apart : names.Nodup)
    (described : List.Forall₂ (ReadAs fun name t a => read depth name t = .ok a) fs fields)
    (made : build fields = some b) :
    record (depth + 1) names read build (.object (named fs) .closed) = .ok b := by
  have known : ∀ f ∈ fs, f.1 ∈ names := fun f hf => all ▸ List.mem_map_of_mem hf
  rw [record_object_iff, fieldsOf_named known]
  refine ⟨?_, all ▸ apart, fields, described, made⟩
  intro m hm
  obtain ⟨f, hf, rfl⟩ := List.mem_map.mp hm
  exact ⟨_, rfl, fun unknown => absurd (by simpa using known f hf) unknown⟩

/-! ## The order of fields -/

theorem lookup_eq_of_perm {fs gs : List (String × α)} (order : fs.Perm gs) :
    (fs.map (·.1)).Nodup → ∀ name, fs.lookup name = gs.lookup name := by
  induction order with
  | nil => simp
  | cons f _ ih =>
    intro apart name
    rw [List.map_cons, List.nodup_cons] at apart
    rw [List.lookup_cons, List.lookup_cons, ih apart.2 name]
  | swap f g fs =>
    intro apart name
    have other : g.1 ≠ f.1 := by
      intro same
      simp [same] at apart
    rw [List.lookup_cons, List.lookup_cons, List.lookup_cons, List.lookup_cons]
    by_cases hf : name = f.1
    · rw [hf, beq_false_of_ne (Ne.symm other)]
    · rw [beq_false_of_ne hf]
  | trans first _ ih ih' =>
    intro apart name
    rw [ih apart name, ih' ((first.map _).nodup_iff.mp apart) name]

theorem names_of_readAs {reads : String → Tree → α → Prop} {fs : List (String × Tree)}
    {gs : List (String × α)} (h : List.Forall₂ (ReadAs reads) fs gs) :
    gs.map (·.1) = fs.map (·.1) := by
  induction h with
  | nil => rfl
  | cons one _ ih => rw [List.map_cons, List.map_cons, ih, one.1]

/-- What is read of the fields, asked for by name, is the same after a revision. -/
theorem Revised.readAs {names : List String} {ms ms' : Members}
    (revised : Revised names ms ms') {reads : String → Tree → α → Prop}
    {fields : List (String × α)} (apart : ((Json.fieldsOf names ms).map (·.1)).Nodup)
    (described : List.Forall₂ (ReadAs reads) (Json.fieldsOf names ms) fields) :
    ((Json.fieldsOf names ms').map (·.1)).Nodup ∧
      ∃ fields', List.Forall₂ (ReadAs reads) (Json.fieldsOf names ms') fields' ∧
        ∀ name, fields.lookup name = fields'.lookup name := by
  have order := revised.fieldsOf
  obtain ⟨fields', described', order'⟩ := List.perm_comp_forall₂ order.symm described
  refine ⟨(order.map _).nodup_iff.mp apart, fields', described', ?_⟩
  exact lookup_eq_of_perm order'.symm (names_of_readAs described ▸ apart)

/-- A record that asks for its fields by name is read the same from a revised object. -/
theorem Tree.record_of_revised {β : Type} {depth : Nat} {names : List String}
    {read : Nat → String → Tree → Except Fault α} {build : List (String × α) → Option β}
    (byName : ∀ fs gs, (∀ name, fs.lookup name = gs.lookup name) → build fs = build gs)
    {ms ms' : Members} {b : β} (revised : Revised names ms ms')
    (passes : ∀ m ∈ ms', m.2.Passes)
    (h : record (depth + 1) names read build (.object ms .closed) = .ok b) :
    record (depth + 1) names read build (.object ms' .closed) = .ok b := by
  rw [record_object_iff] at h ⊢
  obtain ⟨legible, apart, fields, described, made⟩ := h
  obtain ⟨apart', fields', described', same⟩ := revised.readAs apart described
  have legible' := revised.legible legible fun _ _ hm _ => passes _ hm
  exact ⟨legible', apart', fields', described', by rw [← byName _ _ same, made]⟩

end TelemetrySidecar.Json
