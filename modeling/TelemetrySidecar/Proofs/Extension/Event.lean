import TelemetrySidecar.Extension.Event
import TelemetrySidecar.Proofs.Json.Record

/-
  Lifecycle events from objects

  Which members of an event are fields is known only when the member that says its kind
  was read, so all others are kept until then.

  What is proved: an object is read as an event exactly if one member says the kind, the
  others have values, and the fields of that kind make the event
  (`LifecycleEvent.read_object_iff`). So an event is read the same of a revised object
  (`LifecycleEvent.read_of_revised`), and with any text for its reason
  (`LifecycleEvent.read_of_reason`).
-/

namespace TelemetrySidecar

open Json

/-- Items are read in turn if and only if each of them is read. -/
theorem mapM_eq_some_iff {α β : Type} {read : α → Option β} {xs : List α} :
    ∀ {ys : List β}, xs.mapM read = some ys ↔ List.Forall₂ (fun x y => read x = some y) xs ys := by
  induction xs with
  | nil =>
    intro ys
    simp [eq_comm]
  | cons x xs ih =>
    intro ys
    simp only [List.mapM_cons, List.forall₂_cons_left_iff, Option.bind_eq_bind,
      Option.bind_eq_some_iff, Option.pure_def, Option.some.injEq, ih]
    constructor
    · rintro ⟨y, hy, ys, hys, rfl⟩
      exact ⟨y, ys, hy, hys, rfl⟩
    · rintro ⟨y, ys, hy, hys, rfl⟩
      exact ⟨y, hy, ys, hys, rfl⟩

namespace LifecycleEvent

/-- Which kind an event is of. -/
def kind : LifecycleEvent → Kind
  | invoke .. => .invoke
  | shutdown .. => .shutdown

/-- A tree that is a value with at most `depth` collections around one another. -/
def HasValue (depth : Nat) (t : Tree) : Prop := ∃ v, t.value depth = .ok v

/-- The members that do not say the kind, each with its name. -/
def untagged (ms : Members) : List (String × Tree) :=
  ms.filterMap fun m =>
    match m.1 with
    | .ok name => if String.ofList name = kindName then none else some (String.ofList name, m.2)
    | .error _ => none

/-- The kind that is known after the members that say it, if at most one of all did. -/
def SaysKind (before : Option Kind) (tags : List (String × Tree)) (after : Option Kind) : Prop :=
  (tags = [] ∧ after = before) ∨
    (before = none ∧ ∃ tag kind, tags = [(kindName, tag)] ∧ Kind.read tag = .ok kind ∧
      after = some kind)

section

variable {depth : Nat} {before : Option Kind} {others : List (String × Tree)} {name : List Char}
  {value : Tree} {ms : Members}

theorem splitMembers_cons_tag (tag : String.ofList name = kindName) :
    splitMembers depth before others ((.ok name, value) :: ms) =
      match before with
      | some _ => .error .unfit
      | none => Kind.read value >>= fun kind => splitMembers depth (some kind) others ms := by
  cases before with
  | none => simp [splitMembers, bind, Except.bind, tag]
  | some kind =>
    simp [splitMembers, bind, Except.bind, tag, throw, throwThe, MonadExceptOf.throw]

theorem splitMembers_cons_other (other : String.ofList name ≠ kindName) :
    splitMembers depth before others ((.ok name, value) :: ms) =
      value.value depth >>= fun _ =>
        splitMembers depth before (others ++ [(String.ofList name, value)]) ms := by
  simp [splitMembers, bind, Except.bind, other]

theorem untagged_cons_tag (tag : String.ofList name = kindName) :
    untagged ((.ok name, value) :: ms) = untagged ms := by
  simp [untagged, tag]

theorem untagged_cons_other (other : String.ofList name ≠ kindName) :
    untagged ((.ok name, value) :: ms) = (String.ofList name, value) :: untagged ms := by
  simp [untagged, other]

end

theorem splitMembers_eq_ok_iff {depth : Nat} : ∀ {ms : Members} {before : Option Kind}
    {others : List (String × Tree)} {after : Option Kind} {parts : List (String × Tree)},
    splitMembers depth before others ms = .ok (after, parts) ↔
      (∀ m ∈ ms, Legible [kindName] (HasValue depth) m) ∧
      SaysKind before (fieldsOf [kindName] ms) after ∧ parts = others ++ untagged ms := by
  intro ms
  induction ms with
  | nil =>
    intro before others after parts
    simp [splitMembers, SaysKind, fieldsOf, untagged, eq_comm]
  | cons m ms ih =>
    intro before others after parts
    obtain ⟨_ | name, value⟩ := m
    · -- A name that cannot be read ends the reading.
      constructor
      · intro h
        cases h
      · rintro ⟨legible, _⟩
        obtain ⟨name, named, _⟩ := legible _ List.mem_cons_self
        cases named
    · rw [List.forall_mem_cons, legible_named]
      by_cases tag : String.ofList name = kindName
      · rw [fieldsOf_cons_known (by simpa using tag), splitMembers_cons_tag tag,
          untagged_cons_tag tag]
        cases before with
        | some kind => simp [SaysKind]
        | none =>
          -- A second kind is refused, so none is said among the rest.
          simp only [bind_eq_ok_iff, ih, SaysKind, tag]
          constructor
          · rintro ⟨kind, reads, legible, ⟨alone, rfl⟩ | ⟨⟨⟩, _⟩, rfl⟩
            exact ⟨⟨by simp, legible⟩,
              .inr ⟨trivial, value, kind, by rw [alone], reads, rfl⟩, rfl⟩
          · rintro ⟨⟨_, legible⟩, ⟨⟨⟩, _⟩ | ⟨_, _, kind, only, reads, rfl⟩, rfl⟩
            obtain ⟨same, alone⟩ := List.cons.inj only
            cases same
            exact ⟨kind, reads, legible, .inl ⟨alone, rfl⟩, rfl⟩
      · rw [fieldsOf_cons_unknown (by simpa using tag), splitMembers_cons_other tag,
          untagged_cons_other tag]
        simp only [bind_eq_ok_iff, ih, HasValue]
        constructor
        · rintro ⟨v, valued, legible, told, rfl⟩
          exact ⟨⟨fun _ => ⟨v, valued⟩, legible⟩, told, by simp⟩
        · rintro ⟨⟨valued, legible⟩, told, rfl⟩
          obtain ⟨v, valued⟩ := valued (by simpa using tag)
          exact ⟨v, valued, legible, told, by simp⟩

/-- Of the parts besides the kind, the fields are those among the members. -/
theorem filter_untagged {names : List String} (apart : kindName ∉ names) (ms : Members) :
    (untagged ms).filter (fun m => names.contains m.1) = fieldsOf names ms := by
  induction ms with
  | nil => rfl
  | cons m ms ih =>
    obtain ⟨_ | name, value⟩ := m
    · exact ih
    · by_cases tag : String.ofList name = kindName
      · rw [untagged_cons_tag tag, fieldsOf_cons_unknown (tag ▸ apart), ih]
      · rw [untagged_cons_other tag, List.filter_cons, ih]
        by_cases known : String.ofList name ∈ names
        · simp [known, fieldsOf_cons_known known]
        · simp [known, fieldsOf_cons_unknown known]

theorem kindName_not_mem_fieldNames (kind : Kind) : kindName ∉ kind.fieldNames := by
  cases kind with
  | invoke => decide
  | shutdown => decide

theorem kind_of_ofFields {fields : List (String × Field)} {kind : Kind} {event : LifecycleEvent}
    (h : ofFields fields kind = some event) : event.kind = kind := by
  cases kind with
  | invoke =>
    simp only [ofFields, Option.some.injEq] at h
    rw [← h]
    rfl
  | shutdown =>
    simp only [ofFields] at h
    split at h
    · rw [← Option.some.inj h]
      rfl
    · cases h

theorem split_object_iff {depth : Nat} {ms : Members} {kind : Kind} {parts : Parts} :
    split (depth + 1) (.object ms .closed) = .ok (kind, parts) ↔
      (∀ m ∈ ms, Legible [kindName] (HasValue depth) m) ∧
      (∃ tag, fieldsOf [kindName] ms = [(kindName, tag)] ∧ Kind.read tag = .ok kind) ∧
      parts = .named (untagged ms) := by
  simp only [split, deeper, Ending.take, bind_eq_ok_iff, Prod.exists, splitMembers_eq_ok_iff,
    List.nil_append]
  constructor
  · rintro ⟨_, ⟨⟩, after, _, ⟨legible, told, rfl⟩, _, _, h⟩
    cases after with
    | none => cases h
    | some kind' =>
      cases h
      obtain ⟨_, ⟨⟩⟩ | ⟨_, tag, _, only, reads, ⟨⟩⟩ := told
      exact ⟨legible, ⟨tag, only, reads⟩, rfl⟩
  · rintro ⟨legible, ⟨tag, only, reads⟩, rfl⟩
    exact ⟨depth, rfl, some kind, _, ⟨legible, .inr ⟨rfl, tag, kind, only, reads, rfl⟩, rfl⟩, (),
      trivial, rfl⟩

theorem fields_named_iff {names : List String} (apart : kindName ∉ names) {ms : Members}
    {fields : List (String × Field)} :
    (Parts.named (untagged ms)).fields names = some fields ↔
      ((fieldsOf names ms).map (·.1)).Nodup ∧
      List.Forall₂ (ReadAs fun name t f => readField name t = some f) (fieldsOf names ms)
        fields := by
  have reads : (fun (m : String × Tree) (f : String × Field) =>
      ((readField m.1 m.2).map fun f => (m.1, f)) = some f) =
        ReadAs fun name t f => readField name t = some f := by
    funext m f
    obtain ⟨name, f⟩ := f
    simp [ReadAs, and_comm]
  simp only [Parts.fields, filter_untagged apart]
  split
  · rename_i nodup
    rw [mapM_eq_some_iff, reads, and_iff_right nodup]
  · rename_i twice
    simp [twice]

/-- An object is read as an event if and only if one member says the kind, the others
have values, and the fields of that kind make the event. -/
theorem read_object_iff {depth : Nat} {ms : Members} {event : LifecycleEvent} :
    read (depth + 1) (.object ms .closed) = .ok event ↔
      (∀ m ∈ ms, Legible [kindName] (HasValue depth) m) ∧
      (∃ tag, fieldsOf [kindName] ms = [(kindName, tag)] ∧ Kind.read tag = .ok event.kind) ∧
      ((fieldsOf event.kind.fieldNames ms).map (·.1)).Nodup ∧
      ∃ fields, List.Forall₂ (ReadAs fun name t f => readField name t = some f)
          (fieldsOf event.kind.fieldNames ms) fields ∧
        ofFields fields event.kind = some event := by
  simp only [read, bind_eq_ok_iff, Prod.exists, split_object_iff]
  constructor
  · rintro ⟨kind, _, ⟨legible, tagged, rfl⟩, h⟩
    split at h
    · rename_i event' made
      cases h
      obtain ⟨fields, hfields, made⟩ := Option.bind_eq_some_iff.mp made
      obtain ⟨apart, described⟩ := (fields_named_iff (kindName_not_mem_fieldNames kind)).mp hfields
      obtain rfl := kind_of_ofFields made
      exact ⟨legible, tagged, apart, fields, described, made⟩
    · cases h
  · rintro ⟨legible, tagged, apart, fields, described, made⟩
    have hfields := (fields_named_iff (kindName_not_mem_fieldNames event.kind)).mpr
      ⟨apart, described⟩
    refine ⟨event.kind, _, ⟨legible, tagged, rfl⟩, ?_⟩
    simp only [hfields, Option.bind_some, made]
    rfl

/-! ## Revised events -/

theorem ofFields_congr {fs gs : List (String × Field)}
    (same : ∀ name, fs.lookup name = gs.lookup name) (kind : Kind) :
    ofFields fs kind = ofFields gs kind := by
  simp only [ofFields, natField, textField, same]

/-- What an event does not know may come, go and change its place, as long as all that is
there has a value. -/
theorem read_of_revised {depth : Nat} {ms ms' : Members} {event : LifecycleEvent}
    (revised : Revised (kindName :: event.kind.fieldNames) ms ms')
    (valued : ∀ name value, (.ok name, value) ∈ ms' →
      String.ofList name ∉ kindName :: event.kind.fieldNames → HasValue depth value)
    (h : read (depth + 1) (.object ms .closed) = .ok event) :
    read (depth + 1) (.object ms' .closed) = .ok event := by
  rw [read_object_iff] at h ⊢
  obtain ⟨legible, ⟨tag, only, reads⟩, apart, fields, described, made⟩ := h
  have ofKind := revised.mono (List.subset_cons_of_subset kindName (List.Subset.refl _))
  have ofTag : Revised [kindName] ms ms' := revised.mono (by simp)
  obtain ⟨apart', fields', described', same⟩ := ofKind.readAs apart described
  have only' : fieldsOf [kindName] ms' = [(kindName, tag)] :=
    List.perm_singleton.mp (only ▸ ofTag.fieldsOf.symm)
  exact ⟨revised.legible legible valued, ⟨tag, only', reads⟩, apart', fields', described',
    by rw [← ofFields_congr same, made]⟩

/-- The order of members does not matter. -/
theorem read_of_perm {depth : Nat} {ms ms' : Members} {event : LifecycleEvent}
    (order : ms.Perm ms') (h : read (depth + 1) (.object ms .closed) = .ok event) :
    read (depth + 1) (.object ms' .closed) = .ok event := by
  refine read_of_revised (.permuted order) (fun name value hm unknown => ?_) h
  obtain ⟨_, ⟨⟩, valued⟩ := (read_object_iff.mp h).1 _ (order.mem_iff.mpr hm)
  exact valued fun tag => unknown (List.mem_singleton.mp tag ▸ List.mem_cons_self)

/-- The name of the member that says why the process is to end. -/
def reasonName : List Char := "shutdownReason".toList

theorem fieldsOf_reason (name : List Char) (ms : Members) :
    fieldsOf Kind.shutdown.fieldNames ((.ok reasonName, .text (.ok name)) :: ms) =
      ("shutdownReason", .text (.ok name)) :: fieldsOf Kind.shutdown.fieldNames ms := by
  rw [fieldsOf_cons_known (by decide)]
  rfl

/-- Whatever text stands for the reason, the event is read. -/
theorem read_of_reason {depth : Nat} {ms : Members} {name : List Char} (other : List Char)
    {reason : ShutdownReason} {deadlineMs : Nat}
    (h : read (depth + 1) (.object ((.ok reasonName, .text (.ok name)) :: ms) .closed) =
      .ok (.shutdown reason deadlineMs)) :
    read (depth + 1) (.object ((.ok reasonName, .text (.ok other)) :: ms) .closed) =
      .ok (.shutdown (.ofName (String.ofList other)) deadlineMs) := by
  rw [read_object_iff] at h ⊢
  obtain ⟨legible, ⟨tag, only, reads⟩, apart, fields, described, made⟩ := h
  have untagged : String.ofList reasonName ∉ [kindName] := by decide
  rw [fieldsOf_cons_unknown untagged] at only
  simp only [kind, fieldsOf_reason] at apart described
  obtain ⟨⟨_, f⟩, more, ⟨⟨⟩, _⟩, others, rfl⟩ := List.forall₂_cons_left_iff.mp described
  refine ⟨?_, ⟨tag, ?_, reads⟩, ?_,
    ("shutdownReason", .reason (.ofName (String.ofList other))) :: more, ?_, ?_⟩
  · rw [List.forall_mem_cons, legible_named] at legible ⊢
    exact ⟨fun _ => ⟨_, rfl⟩, legible.2⟩
  · rw [fieldsOf_cons_unknown untagged, only]
  · simp only [kind, fieldsOf_reason]
    exact apart
  · simp only [kind, fieldsOf_reason]
    exact .cons ⟨rfl, rfl⟩ others
  · have deadline : natField "deadlineMs" (("shutdownReason", f) :: more) = deadlineMs := by
      simp only [ofFields, kind] at made
      split at made
      · exact (LifecycleEvent.shutdown.inj (Option.some.inj made)).2
      · cases made
    rw [← deadline]
    rfl

end LifecycleEvent

end TelemetrySidecar
