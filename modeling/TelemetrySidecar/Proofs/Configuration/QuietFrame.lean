import TelemetrySidecar.Proofs.Configuration.Assignment
import TelemetrySidecar.Proofs.Configuration.Queues

/-
  What switching off leaves alone

  Exporters are switched off one after the other, each in the mapping that those
  before have left. Where each can be addressed by its name (`Addressable`) it is
  changed once, so all come out as if every entry were changed by itself
  (`quietAll_eq_map`). A change is described by the keys whose values it may
  touch (`KeepsBut`): every other entry keeps its value and its place, and the
  keys that were missing come after all others.

  What is proved: `quietExporters_frame`. Switching off succeeds, touches of the
  exporters that have a name nothing but the two fields, in these nothing but
  the switch, and nothing else; and done a second time it changes nothing.
-/

namespace TelemetrySidecar

/-- The entries of an untagged mapping; of anything else there are none. -/
def Node.inner : Option Node → Mapping
  | some (.map entries) => entries
  | _ => []

theorem Node.room?_of_untagged {o : Option Node} (h : ¬ Mapping.IsTaggedMapping o) :
    room? o = some (inner o) := by
  cases hroom : room? o with
  | none => exact absurd (room?_eq_none_iff.mp hroom) h
  | some m =>
    cases o with
    | none => exact hroom.symm
    | some n =>
      cases n with
      | tagged tag value =>
        simp only [room?] at hroom
        split at hroom
        · cases hroom
        · exact hroom.symm
      | _ => exact hroom.symm

namespace Mapping

/-! ## Changes under some keys -/

/-- The second mapping has every entry of the first in its place, with its value unless it
is under one of some string keys. Of these keys it has those the first lacks as well, after
all others, and no further key. -/
structure KeepsBut (changed : List String) (m after : Mapping) : Prop where
  keys : after.map Prod.fst =
    m.map Prod.fst ++ (changed.filter fun k => !m.has (.text k)).map Node.text
  values : ∀ (i : Nat) (e : Node × Node), m[i]? = some e → (∀ k ∈ changed, e.1 ≠ .text k) →
    after[i]? = some e

theorem keepsBut_insert (key : String) (value : Node) (m : Mapping) :
    m.KeepsBut [key] (m.insert (.text key) value) where
  keys := by
    rw [map_fst_insert]
    cases h : m.has (.text key) <;> simp [h]
  values i e he hne := getElem?_insert_of_ne (hne key List.mem_cons_self) value he

/-- Changes under some keys and then under others are changes under all of them. -/
theorem KeepsBut.trans {first second : List String} {a b c : Mapping} (h : a.KeepsBut first b)
    (h' : b.KeepsBut second c) (apart : ∀ k ∈ second, k ∉ first) :
    a.KeepsBut (first ++ second) c where
  keys := by
    -- What the first change added is none of the keys of the second.
    have hlater : ∀ k ∈ second, (!b.has (.text k)) = !a.has (.text k) := by
      intro k hk
      have hsame : b.has (.text k) = true ↔ a.has (.text k) = true := by
        rw [has_text_iff, has_text_iff, h.keys, List.mem_append]
        constructor
        · intro hmem
          cases hmem with
          | inl hmem => exact hmem
          | inr hmem =>
            obtain ⟨l, hl, hkey⟩ := List.mem_map.mp hmem
            cases hkey
            exact absurd (List.mem_filter.mp hl).1 (apart k hk)
        · exact .inl
      rw [Bool.eq_iff_iff.mpr hsame]
    rw [h'.keys, h.keys, List.filter_congr hlater, List.filter_append, List.map_append,
      List.append_assoc]
  values i e he hne := by
    have hb : b[i]? = some e :=
      h.values i e he fun k hk => hne k (List.mem_append_left second hk)
    exact h'.values i e hb fun k hk => hne k (List.mem_append_right first hk)

/-! ## The fields of one exporter -/

/-- A mapping with its switch put. -/
def switchOff (switches : Mapping) : Mapping := switches.insert (.text "enabled") (.bool false)

/-- The fields of an exporter with both switches put. -/
def quietFields (fields : Mapping) : Mapping :=
  (fields.put (.bool false) ["sending_queue", "enabled"]).put (.bool false)
    ["retry_on_failure", "enabled"]

/-- What becomes of the fields of an exporter: under both fields stands a mapping with its
switch off, which has what was in a mapping there. -/
structure Quiets (fields after : Mapping) : Prop where
  keeps : fields.KeepsBut queueFields after
  switches : ∀ f ∈ queueFields, ∃ switches : Mapping,
    after.find? (.text f) = some (.map switches) ∧
    switches.find? (.text "enabled") = some (.bool false) ∧
    (Node.inner (fields.find? (.text f))).KeepsBut ["enabled"] switches

theorem put_switch {fields : Mapping} {f : String}
    (h : ¬ IsTaggedMapping (fields.find? (.text f))) :
    fields.put (.bool false) [f, "enabled"] =
      fields.insert (.text f) (.map (switchOff (Node.inner (fields.find? (.text f))))) :=
  put_of_room? (Node.room?_of_untagged h) (by simp) _

theorem quietFields_eq {fields : Mapping}
    (h : ∀ f ∈ queueFields, ¬ IsTaggedMapping (fields.find? (.text f))) :
    quietFields fields =
      (fields.insert (.text "sending_queue")
        (.map (switchOff (Node.inner (fields.find? (.text "sending_queue")))))).insert
        (.text "retry_on_failure")
        (.map (switchOff (Node.inner (fields.find? (.text "retry_on_failure"))))) := by
  have hsend := h _ (mem_queueFields.mpr (.inl rfl))
  have hretry := h _ (mem_queueFields.mpr (.inr rfl))
  have hother : ∀ value, (fields.insert (.text "sending_queue") value).find?
      (.text "retry_on_failure") = fields.find? (.text "retry_on_failure") := by
    intro value
    rw [find?_insert_text, if_neg (by decide)]
  rw [quietFields, put_switch hsend, put_switch, hother]
  rwa [hother]

theorem quiets_quietFields {fields : Mapping}
    (h : ∀ f ∈ queueFields, ¬ IsTaggedMapping (fields.find? (.text f))) :
    fields.Quiets (quietFields fields) where
  keeps := by
    rw [quietFields_eq h]
    exact (keepsBut_insert ..).trans (keepsBut_insert ..) (by simp)
  switches f hf := by
    refine ⟨switchOff (Node.inner (fields.find? (.text f))), ?_, ?_, keepsBut_insert ..⟩
    · rw [quietFields_eq h, find?_insert_text, find?_insert_text]
      cases mem_queueFields.mp hf with
      | inl hf => simp [hf]
      | inr hf => simp [hf]
    · rw [switchOff, find?_insert_text, if_pos rfl]

/-- A switch that is off is put to no effect. -/
theorem put_switch_of_off {fields switches : Mapping} {f : String}
    (hf : fields.find? (.text f) = some (.map switches))
    (hoff : switches.find? (.text "enabled") = some (.bool false)) :
    fields.put (.bool false) [f, "enabled"] = fields := by
  have hroom : Node.room? (fields.find? (.text f)) = some switches := by
    rw [hf]
    rfl
  rw [put_of_room? hroom (by simp), put_single, insert_of_find? hoff, insert_of_find? hf]

theorem Quiets.quietFields_eq_self {fields after : Mapping} (h : fields.Quiets after) :
    quietFields after = after := by
  obtain ⟨_, hsend, hsendOff, -⟩ := h.switches _ (mem_queueFields.mpr (.inl rfl))
  obtain ⟨_, hretry, hretryOff, -⟩ := h.switches _ (mem_queueFields.mpr (.inr rfl))
  rw [quietFields, put_switch_of_off hsend hsendOff, put_switch_of_off hretry hretryOff]

/-! ## All exporters -/

/-- Every exporter with a string for a key can be addressed by it: no key is tagged, and no
string holds the delimiter of paths or ends with a colon. -/
structure Addressable (exporters : Mapping) : Prop where
  untagged : ∀ key ∈ exporters.map Prod.fst, ∀ tag value, key ≠ .tagged tag value
  names : ∀ name, Node.text name ∈ exporters.map Prod.fst →
    KeyPath.Undivided name ∧ name.toList.getLast? ≠ some ':'

theorem Addressable.of_cons {e : Node × Node} {m : Mapping} (h : Addressable (e :: m)) :
    m.Addressable where
  untagged key hkey := h.untagged key (List.mem_cons_of_mem _ hkey)
  names name hname := h.names name (List.mem_cons_of_mem _ hname)

theorem Addressable.of_keys {m m' : Mapping} (h : m.Addressable)
    (hkeys : m'.map Prod.fst = m.map Prod.fst) : m'.Addressable where
  untagged := by
    rw [hkeys]
    exact h.untagged
  names := by
    rw [hkeys]
    exact h.names

theorem Addressable.isSingle {m : Mapping} (h : m.Addressable) : ∀ e ∈ m, e.1.IsSingle := by
  intro e he
  have hkey := List.mem_map_of_mem (f := Prod.fst) he
  intro s hs
  cases hk : e.1 with
  | text name =>
    rw [hk] at hkey hs
    cases hs
    exact KeyPath.undivided_iff.mp (h.names _ hkey).1
  | tagged tag value => exact absurd hk (h.untagged _ hkey tag value)
  | _ =>
    rw [hk] at hs
    cases hs

/-- One exporter is switched off in its own place. -/
theorem quieted_eq {name : String} (hname : KeyPath.Undivided name)
    (hlast : name.toList.getLast? ≠ some ':') (exporters : Mapping) :
    exporters.quieted name =
      exporters.insert (.text name) (.map (quietFields (exporters.exporter name))) := by
  have hsegments : ∀ f ∈ queueFields,
      KeyPath.segments (KeyPath.join [name, f, "enabled"]) = [name, f, "enabled"] := by
    intro f hf
    cases KeyPath.segments_switch (KeyPath.undivided_iff.mp hname) hf with
    | inl h => exact h.2
    | inr h =>
      obtain ⟨stem, rfl, -⟩ := h
      simp at hlast
  have hopened : ∀ value,
      (exporters.opened name).insert (.text name) value = exporters.insert (.text name) value := by
    intro value
    unfold opened
    split
    · rfl
    · rw [insert_insert]
  have hroom : Node.room? ((exporters.opened name).find? (.text name)) =
      some (exporters.exporter name) := by
    rw [find?_opened_self]
    rfl
  rw [quieted, switched, switched, hsegments _ (mem_queueFields.mpr (.inl rfl)),
    hsegments _ (mem_queueFields.mpr (.inr rfl)), put_of_room? hroom (by simp),
    put_of_room? (room?_insert ..) (by simp), insert_insert, hopened]
  rfl

/-- An entry of the exporters, switched off if it has a name. -/
def quietEntry (e : Node × Node) : Node × Node :=
  match e.1 with
  | .text _ => (e.1, .map (quietFields (Node.inner (some e.2))))
  | _ => e

theorem quietEntry_of_text (name : String) (value : Node) :
    quietEntry (.text name, value) =
      (.text name, .map (quietFields (Node.inner (some value)))) := rfl

theorem quietEntry_of_ne {e : Node × Node} (h : ∀ name, e.1 ≠ .text name) : quietEntry e = e := by
  unfold quietEntry
  split
  · rename_i name hname
    exact absurd hname (h name)
  · rfl

theorem map_fst_quietEntry (m : Mapping) : (m.map quietEntry).map Prod.fst = m.map Prod.fst := by
  rw [List.map_map]
  apply List.map_congr_left
  intro e _
  show (quietEntry e).1 = e.1
  unfold quietEntry
  split <;> rfl

/-- No key stands in the mapping twice. -/
def KeysApart (m : Mapping) : Prop := (m.map Prod.fst).Pairwise fun k l => k.same l = false

theorem WellFormed.keysApart {m : Mapping} (h : m.WellFormed) : m.KeysApart :=
  List.pairwise_map.mpr h.apart

theorem KeysApart.of_keys {m m' : Mapping} (h : m.KeysApart)
    (hkeys : m'.map Prod.fst = m.map Prod.fst) : m'.KeysApart := by
  rw [KeysApart, hkeys]
  exact h

theorem KeysApart.find?_eq_none {name : String} {value : Node} {a b : Mapping}
    (h : KeysApart (a ++ (.text name, value) :: b)) : a.find? (.text name) = none := by
  rw [KeysApart, List.map_append, List.pairwise_append] at h
  rw [find?_eq_none_iff]
  intro e he
  rw [Bool.eq_false_iff]
  intro hsame
  have hne := h.2.2 e.1 (List.mem_map_of_mem he) (.text name) List.mem_cons_self
  rw [Node.same_text_iff.mp hsame, Node.same_refl] at hne
  cases hne

/-- An exporter is switched off in its place, whatever stands before and after it. -/
theorem quieted_append {name : String} (hname : KeyPath.Undivided name)
    (hlast : name.toList.getLast? ≠ some ':') {done : Mapping}
    (hfresh : done.find? (.text name) = none) (value : Node) (rest : Mapping) :
    quieted (done ++ (.text name, value) :: rest) name =
      done ++ quietEntry (.text name, value) :: rest := by
  have hexporter : exporter (done ++ (.text name, value) :: rest) name =
      Node.inner (some value) := by
    rw [exporter, find?_append_of_none hfresh, find?_cons_self]
    rfl
  rw [quieted_eq hname hlast, hexporter, insert_append_of_none hfresh, insert_cons,
    Node.same_refl, if_pos rfl, quietEntry_of_text]

/-- Exporters are switched off one after the other, those before being done. -/
theorem quietAll_append {rest : Mapping} : rest.Addressable → ∀ {done : Mapping},
    KeysApart (done ++ rest) →
    quietAll (done ++ rest) (rest.filterMap (·.1.text?)) = done ++ rest.map quietEntry := by
  induction rest with
  | nil =>
    intro _ done _
    rfl
  | cons e rest ih =>
    intro h done hapart
    obtain ⟨key, value⟩ := e
    -- Whatever the first one has become, it belongs to those that are done.
    have hon : ∀ value', quietAll (done ++ (key, value') :: rest) (rest.filterMap (·.1.text?)) =
        done ++ (key, value') :: rest.map quietEntry := by
      intro value'
      have hnext : KeysApart (done ++ [(key, value')] ++ rest) := by
        simpa [KeysApart] using hapart
      simpa using ih h.of_cons hnext
    cases hkey : key.text? with
    | none =>
      have hnameless : ∀ name, key ≠ .text name := by
        intro name hname
        rw [hname] at hkey
        cases hkey
      have hnames : ((key, value) :: rest).filterMap (·.1.text?) = rest.filterMap (·.1.text?) :=
        List.filterMap_cons_none hkey
      rw [hnames, List.map_cons, quietEntry_of_ne hnameless]
      exact hon value
    | some name =>
      obtain rfl : key = .text name := by
        cases key with
        | text s =>
          cases hkey
          rfl
        | tagged tag n => exact absurd rfl (h.untagged _ List.mem_cons_self tag n)
        | _ => cases hkey
      obtain ⟨hname, hlast⟩ := h.names name List.mem_cons_self
      have hone := quieted_append hname hlast hapart.find?_eq_none value rest
      have hnames : ((Node.text name, value) :: rest).filterMap (·.1.text?) =
          name :: rest.filterMap (·.1.text?) := List.filterMap_cons_some hkey
      rw [hnames, quietAll, List.foldl_cons, ← quietAll, hone]
      exact hon _

theorem quietAll_eq_map {exporters : Mapping} (h : exporters.Addressable)
    (hapart : exporters.KeysApart) :
    exporters.quietAll (exporters.filterMap (·.1.text?)) = exporters.map quietEntry :=
  @quietAll_append exporters h [] hapart

/-- An exporter with a name that is switched off a second time stays as it is. -/
theorem quietEntry_quietEntry {e : Node × Node}
    (h : ∀ f ∈ queueFields, ¬ IsTaggedMapping ((Node.inner (some e.2)).find? (.text f))) :
    quietEntry (quietEntry e) = quietEntry e := by
  by_cases hname : ∃ name, e.1 = .text name
  · obtain ⟨name, hname⟩ := hname
    obtain ⟨key, value⟩ := e
    cases hname
    rw [quietEntry_of_text, quietEntry_of_text]
    show (Node.text name, Node.map (quietFields (quietFields _))) = _
    rw [(quiets_quietFields h).quietFields_eq_self]
  · have hstays : quietEntry e = e := quietEntry_of_ne fun name h => hname ⟨name, h⟩
    rw [hstays, hstays]

end Mapping

/-! ## The frame -/

namespace Configuration

/-- Of the untagged mappings that exporters are, neither field with a switch is tagged. -/
def SwitchesUntagged (exporters : Mapping) : Prop :=
  ∀ e ∈ exporters, ∀ fields : Mapping, e.2 = .map fields → ∀ f ∈ queueFields,
    ∀ tag value, fields.find? (.text f) ≠ some (.tagged tag value)

theorem SwitchesUntagged.of_mem {exporters : Mapping} (h : SwitchesUntagged exporters)
    {e : Node × Node} (he : e ∈ exporters) : ∀ f ∈ queueFields,
    ¬ Mapping.IsTaggedMapping ((Node.inner (some e.2)).find? (.text f)) := by
  intro f hf htagged
  obtain ⟨tag, value, hvalue, -⟩ := htagged
  cases hnode : e.2 with
  | map fields =>
    rw [hnode] at hvalue
    exact h e he fields hnode f hf tag value hvalue
  | _ =>
    rw [hnode] at hvalue
    cases hvalue

/-- Exporters that can be addressed by their names, and whose switches are not under tags,
can be switched off. Every other entry at the root stays as it is in its place, and so does
every exporter without a name; the keys of both come in the same order, and none is added.
An exporter with a name keeps all but the two fields, which come to stand in it if they did
not, and these keep all but the switch. To switch off a second time changes nothing. -/
theorem quietExporters_frame {c : Configuration} {given : Mapping} (hwf : c.root.WellFormed)
    (hgiven : c.root.find? (.text "exporters") = some (.map given))
    (hnames : given.Addressable) (hswitches : SwitchesUntagged given) :
    ∃ (d : Configuration) (after : Mapping), c.quietExporters? = some d ∧
      d.root.map Prod.fst = c.root.map Prod.fst ∧ c.root.KeepsBut ["exporters"] d.root ∧
      d.root.find? (.text "exporters") = some (.map after) ∧
      after.map Prod.fst = given.map Prod.fst ∧
      (∀ (i : Nat) (e : Node × Node), given[i]? = some e →
        ((∀ name, e.1 ≠ .text name) → after[i]? = some e) ∧
        ∀ name, e.1 = .text name → ∃ fields : Mapping, after[i]? = some (e.1, .map fields) ∧
          (Node.inner (some e.2)).Quiets fields) ∧
      d.quietExporters? = some d := by
  have hapart : given.KeysApart := (hwf.inner hgiven).keysApart
  have hkeys := Mapping.map_fst_quietEntry given
  refine ⟨c.withExporters (given.map Mapping.quietEntry), given.map Mapping.quietEntry,
    ?_, ?_, ?_, find?_withExporters c _, hkeys, ?_, ?_⟩
  · rw [quietExporters?_of_map hgiven hnames.isSingle, Mapping.quietAll_eq_map hnames hapart]
  · have hhas : c.root.has (.text "exporters") = true := by
      rw [Mapping.has, hgiven]
      rfl
    rw [withExporters, Mapping.map_fst_insert, if_pos hhas]
  · exact Mapping.keepsBut_insert "exporters" _ c.root
  · intro i e he
    have hafter : (given.map Mapping.quietEntry)[i]? = some (Mapping.quietEntry e) := by
      rw [List.getElem?_map, he]
      rfl
    constructor
    · intro hnameless
      rw [hafter, Mapping.quietEntry_of_ne hnameless]
    · intro name hname
      obtain ⟨key, value⟩ := e
      cases hname
      exact ⟨_, hafter, Mapping.quiets_quietFields (hswitches.of_mem (List.mem_of_getElem? he))⟩
  · -- Both conditions are on the keys, so they hold of the exporters that are switched off.
    have hnames' := hnames.of_keys hkeys
    have hapart' := hapart.of_keys hkeys
    have htwice : (given.map Mapping.quietEntry).map Mapping.quietEntry =
        given.map Mapping.quietEntry := by
      rw [List.map_map]
      apply List.map_congr_left
      intro e he
      exact Mapping.quietEntry_quietEntry (hswitches.of_mem he)
    rw [quietExporters?_of_map (find?_withExporters c _) hnames'.isSingle,
      Mapping.quietAll_eq_map hnames' hapart', htwice,
      withExporters_of_find? (find?_withExporters c _)]

/-- Three exporters: one with a queue, one under a number, one without a value. -/
def threeExporters : Mapping :=
  [(.text "otlp", .map [(.text "endpoint", .text "collector:4317"),
      (.text "sending_queue", .map [(.text "num_consumers", .int 4)])]),
    (.int 7, .null), (.text "logging", .null)]

theorem threeExporters_wellFormed : threeExporters.WellFormed := by
  have hqueue : (Node.map [(.text "num_consumers", .int 4)]).WellFormed :=
    Mapping.wellFormed_iff.mpr (.single (.text _) (.int 4))
  have hotlp : (Node.map [(.text "endpoint", .text "collector:4317"),
      (.text "sending_queue", .map [(.text "num_consumers", .int 4)])]).WellFormed :=
    .map (by simp [Node.WellFormed.text]) (by simp [Node.WellFormed.text, hqueue])
      (by simp [Node.same_texts])
  constructor
  · simp [threeExporters, Node.WellFormed.text, Node.WellFormed.int]
  · simp [threeExporters, Node.WellFormed.null, hotlp]
  · simp [threeExporters, Node.same]

theorem threeExporters_addressable : threeExporters.Addressable where
  untagged := by simp [threeExporters]
  names := by
    intro name hname
    have hname : name = "otlp" ∨ name = "logging" := by simpa [threeExporters] using hname
    obtain rfl | rfl := hname
    · exact ⟨KeyPath.undivided_iff.mpr (by decide), by decide⟩
    · exact ⟨KeyPath.undivided_iff.mpr (by decide), by decide⟩

theorem threeExporters_untagged : SwitchesUntagged threeExporters := by
  intro e he fields hfields f hf tag value h
  obtain ⟨_, hmem, -⟩ := Mapping.mem_of_find? h
  obtain rfl | rfl | rfl : e = _ ∨ e = _ ∨ e = _ := by simpa [threeExporters] using he
  · cases hfields
    simp at hmem
  · cases hfields
  · cases hfields

/-- The exporter without a value comes to have both fields, and the one under a number stays. -/
theorem quietExporters_frame_threeExporters :
    let c : Configuration :=
      ⟨[(.text "receivers", .null), (.text "exporters", .map threeExporters)]⟩
    c.root.WellFormed ∧ c.root.find? (.text "exporters") = some (.map threeExporters) ∧
    threeExporters.Addressable ∧ SwitchesUntagged threeExporters ∧
    ∃ (d : Configuration) (after fields : Mapping), c.quietExporters? = some d ∧
      d.root.head? = some (.text "receivers", .null) ∧
      d.root.find? (.text "exporters") = some (.map after) ∧ after[1]? = some (.int 7, .null) ∧
      after[2]? = some (.text "logging", .map fields) ∧
      fields.map Prod.fst = [.text "sending_queue", .text "retry_on_failure"] ∧
      d.quietExporters? = some d := by
  intro c
  have hinner : (Node.map threeExporters).WellFormed :=
    Mapping.wellFormed_iff.mpr threeExporters_wellFormed
  have hwf : c.root.WellFormed :=
    Mapping.WellFormed.insert (.single (.text "receivers") .null) (.text "exporters") hinner
  have hgiven : c.root.find? (.text "exporters") = some (.map threeExporters) :=
    Mapping.find?_cons_of_ne (by simp [Node.same_texts]) _ _
  obtain ⟨d, after, hd, -, hroot, hafter, -, heach, htwice⟩ :=
    quietExporters_frame hwf hgiven threeExporters_addressable threeExporters_untagged
  obtain ⟨fields, hlogging, hfields⟩ := (heach 2 _ rfl).2 "logging" rfl
  refine ⟨hwf, hgiven, threeExporters_addressable, threeExporters_untagged, d, after, fields, hd,
    ?_, hafter, (heach 1 _ rfl).1 (by simp), hlogging, hfields.keeps.keys, htwice⟩
  rw [List.head?_eq_getElem?]
  exact hroot.values 0 _ rfl (by simp)

end Configuration

end TelemetrySidecar
