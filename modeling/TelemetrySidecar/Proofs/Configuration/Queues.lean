import TelemetrySidecar.Configuration.Queues
import TelemetrySidecar.Proofs.Configuration.Put
import TelemetrySidecar.Proofs.Configuration.Spread

/-
  Which queues are switched off

  The switches of an exporter are put under paths that begin with its name. A
  name that ends with a colon is read without it, so its switches land with the
  exporter of the shorter name, under keys that begin with a colon; and where
  the mapping of a switch is tagged nothing is put.

  What is proved: these are the only two exceptions. Switching off all named
  exporters leaves under each field of an exporter what `off` makes of it if
  the exporter is named without a colon at its end, and else what was there
  (`find?_field_quietAll`). So a field's switch is off afterwards exactly if it
  could be put there, or was off before (`reach?_enabled_iff`).
-/

namespace TelemetrySidecar

/-- The fields of an exporter that have a switch. -/
def queueFields : List String := ["sending_queue", "retry_on_failure"]

theorem mem_queueFields {f : String} :
    f ∈ queueFields ↔ f = "sending_queue" ∨ f = "retry_on_failure" := by
  simp [queueFields]

namespace KeyPath

theorem join_two (a b : String) : join [a, b] = a ++ delimiter ++ b := by
  rw [join_cons (List.cons_ne_nil b []), join_single]

theorem join_three (a b c : String) : join [a, b, c] = a ++ delimiter ++ join [b, c] :=
  join_cons (List.cons_ne_nil b [c]) a

/-- The keys of a switch's path: a colon at the end of the exporter's name goes
over to the field. -/
theorem segments_switch {name field : String} (hn : isNested name = false)
    (hf : field ∈ queueFields) :
    (name.toList.getLast? ≠ some ':' ∧
      segments (join [name, field, "enabled"]) = [name, field, "enabled"]) ∨
    (∃ stem, name = stem ++ ":" ∧
      segments (join [name, field, "enabled"]) = [stem, ":" ++ field, "enabled"]) := by
  have hrest : segments (join [field, "enabled"]) = [field, "enabled"] ∧
      segments (":" ++ join [field, "enabled"]) = [":" ++ field, "enabled"] := by
    rcases mem_queueFields.mp hf with rfl | rfl <;> exact ⟨rfl, rfl⟩
  rw [join_three]
  by_cases hlast : name.toList.getLast? = some ':'
  · right
    obtain ⟨front, hfront⟩ := List.getLast?_eq_some_iff.mp hlast
    have hname : name = String.ofList front ++ ":" := by
      rw [← String.toList_inj]
      simpa using hfront
    have hinfix : ¬ [':', ':'] <:+: name.toList := by
      rw [← isNested_iff, hn]; simp
    have hstem : (String.ofList front).toList.getLast? ≠ some ':' := by
      intro h
      obtain ⟨s, hs⟩ := List.getLast?_eq_some_iff.mp h
      simp only [String.toList_ofList] at hs
      exact hinfix ⟨s, [], by simp [hfront, hs]⟩
    have hsingle : isNested (String.ofList front) = false := by
      rw [← Bool.not_eq_true, isNested_iff]
      rintro ⟨s, t, hst⟩
      simp only [String.toList_ofList] at hst
      exact hinfix ⟨s, t ++ [':'], by simp [hfront, ← hst]⟩
    refine ⟨String.ofList front, hname, ?_⟩
    rw [hname, segments_append_colon hstem, segments_of_plain hsingle, hrest.2]
    rfl
  · left
    refine ⟨hlast, ?_⟩
    rw [segments_append hlast, segments_of_plain hn, hrest.1]
    rfl

theorem length_segments_switch {name field : String} (hn : isNested name = false)
    (hf : field ∈ queueFields) : 1 < (segments (join [name, field, "enabled"])).length := by
  rcases segments_switch hn hf with ⟨_, h⟩ | ⟨_, _, h⟩ <;> simp [h]

end KeyPath

namespace Mapping

/-! ## One exporter among all -/

/-- The mapping of one exporter; an empty one if it is no mapping. -/
def exporter (exporters : Mapping) (name : String) : Mapping :=
  match exporters.find? (.text name) with
  | some (.map inner) => inner
  | _ => []

/-- All exporters, one of them made a mapping if it is none. -/
def opened (exporters : Mapping) (name : String) : Mapping :=
  match exporters.find? (.text name) with
  | some (.map _) => exporters
  | _ => exporters.insert (.text name) (.map [])

/-- All exporters, the switch of one field of one of them put. -/
def switched (exporters : Mapping) (name field : String) : Mapping :=
  exporters.put (.bool false) (KeyPath.segments (KeyPath.join [name, field, "enabled"]))

/-- All exporters, one of them switched off. -/
def quieted (exporters : Mapping) (name : String) : Mapping :=
  ((exporters.opened name).switched name "sending_queue").switched name "retry_on_failure"

/-- What switching off makes of a field: its mapping, or an empty one, with the
switch put. A tagged mapping stays as it is. -/
def off (field : Option Node) : Option Node :=
  match Node.room? field with
  | some inner => some (.map (inner.insert (.text "enabled") (.bool false)))
  | none => field

theorem off_off (field : Option Node) : off (off field) = off field := by
  unfold off
  cases h : Node.room? field with
  | none => simp [h]
  | some inner => simp [Node.room?, insert_insert]

theorem exporter_of_find? {exporters inner : Mapping} {name : String}
    (h : exporters.find? (.text name) = some (.map inner)) : exporters.exporter name = inner := by
  simp [exporter, h]

theorem exporter_congr {a b : Mapping} {name : String}
    (h : a.find? (.text name) = b.find? (.text name)) : a.exporter name = b.exporter name := by
  simp [exporter, h]

theorem room?_exporter {exporters inner : Mapping} {name : String}
    (h : Node.room? (exporters.find? (.text name)) = some inner) :
    inner = exporters.exporter name := by
  unfold exporter
  split
  · rename_i m hm
    rw [hm] at h
    exact (Option.some.inj h).symm
  · rename_i hno
    unfold Node.room? at h
    split at h
    · rename_i m hm
      exact absurd hm (hno m)
    · split at h
      · cases h
      · exact (Option.some.inj h).symm
    · exact (Option.some.inj h).symm

/-! ## Opening an exporter and putting a switch -/

theorem find?_opened_self (exporters : Mapping) (name : String) :
    (exporters.opened name).find? (.text name) = some (.map (exporters.exporter name)) := by
  unfold opened exporter
  split
  · rename_i h; rw [h]
  · simp [find?_insert_text]

theorem find?_opened_of_ne {k name : String} (h : k ≠ name) (exporters : Mapping) :
    (exporters.opened name).find? (.text k) = exporters.find? (.text k) := by
  unfold opened
  split
  · rfl
  · rw [find?_insert_text, if_neg h]

theorem exporter_opened (exporters : Mapping) (k name : String) :
    (exporters.opened name).exporter k = exporters.exporter k := by
  by_cases h : k = name
  · subst h
    exact exporter_of_find? (find?_opened_self exporters k)
  · exact exporter_congr (find?_opened_of_ne h exporters)

/-- A switch put under the exporter's own name is put in its mapping. -/
theorem exporter_put_self {exporters inner : Mapping} {k : String}
    (h : exporters.find? (.text k) = some (.map inner)) (value : Node) {rest : List String}
    (hr : rest ≠ []) :
    (exporters.put value (k :: rest)).find? (.text k) = some (.map (inner.put value rest)) := by
  rw [find?_put_self hr, h]
  rfl

/-- A value put under another field, or another exporter, leaves a field as it
was. -/
theorem field_put_of_ne {k name f g : String} (h : k ≠ name ∨ f ≠ g) (value : Node)
    (rest : List String) (exporters : Mapping) :
    ((exporters.put value (name :: g :: rest)).exporter k).find? (.text f) =
      (exporters.exporter k).find? (.text f) := by
  by_cases hk : k = name
  · subst hk
    have hput : (exporters.put value (k :: g :: rest)).find? (.text k) = _ :=
      find?_put_self (List.cons_ne_nil g rest) value exporters
    cases hroom : Node.room? (exporters.find? (.text k)) with
    | none =>
      rw [hroom] at hput
      rw [exporter_congr hput]
    | some inner =>
      rw [hroom] at hput
      have hfg : f ≠ g := h.resolve_left (by simp)
      rw [exporter_of_find? hput, find?_put_of_ne hfg, room?_exporter hroom]
  · rw [exporter_congr (find?_put_of_ne hk value _ exporters)]

/-- The value of a field after its own switch was put. -/
theorem find?_put_switch (inner : Mapping) (field : String) :
    (inner.put (.bool false) [field, "enabled"]).find? (.text field) =
      off (inner.find? (.text field)) := by
  rw [find?_put_self (by simp)]
  rfl

/-! ## Switching off one exporter and all -/

/-- A field of an exporter after one exporter was switched off. -/
theorem find?_field_quieted {name : String} (hn : KeyPath.isNested name = false) {f : String}
    (hf : f ∈ queueFields) (k : String) (exporters : Mapping) :
    ((exporters.quieted name).exporter k).find? (.text f) =
      if k = name ∧ k.toList.getLast? ≠ some ':' then off ((exporters.exporter k).find? (.text f))
      else (exporters.exporter k).find? (.text f) := by
  have hsend := KeyPath.segments_switch hn (mem_queueFields.mpr (.inl rfl))
  have hretry := KeyPath.segments_switch hn (mem_queueFields.mpr (.inr rfl))
  rw [quieted, switched, switched]
  rcases hsend with ⟨hlast, hsend⟩ | ⟨stem, rfl, hsend⟩
  · -- The switches are put where they belong.
    have hretry := (hretry.resolve_right (by
      rintro ⟨stem, rfl, _⟩
      simp at hlast)).2
    rw [hsend, hretry]
    by_cases hk : k = name
    · subst hk
      rw [if_pos ⟨rfl, hlast⟩]
      have h1 := exporter_put_self (find?_opened_self exporters k) (.bool false)
        (List.cons_ne_nil "sending_queue" ["enabled"])
      have h2 := exporter_put_self h1 (.bool false)
        (List.cons_ne_nil "retry_on_failure" ["enabled"])
      rw [exporter_of_find? h2]
      rcases mem_queueFields.mp hf with rfl | rfl
      · rw [find?_put_of_ne (by decide), find?_put_switch]
      · rw [find?_put_switch, find?_put_of_ne (by decide)]
    · rw [if_neg fun h => hk h.1]
      rw [field_put_of_ne (.inl hk), field_put_of_ne (.inl hk), exporter_opened]
  · -- They land under keys that begin with a colon.
    have hcolon : ∀ g, f ≠ ":" ++ g := by
      intro g h
      have hhead := congrArg (fun s => s.toList.head?) h
      rcases mem_queueFields.mp hf with rfl | rfl <;> simp at hhead
    have hretry : KeyPath.segments (KeyPath.join [stem ++ ":", "retry_on_failure", "enabled"]) =
        [stem, ":" ++ "retry_on_failure", "enabled"] := by
      rcases hretry with ⟨hlast, _⟩ | ⟨stem', hstem, hretry⟩
      · simp at hlast
      · have : stem = stem' := by
          rw [← String.toList_inj]
          simpa using congrArg String.toList hstem
        rw [hretry, this]
    rw [hsend, hretry, if_neg (by rintro ⟨rfl, h⟩; simp at h),
      field_put_of_ne (.inr (hcolon _)), field_put_of_ne (.inr (hcolon _)), exporter_opened]

/-- All exporters, those of some names switched off one after the other. -/
def quietAll (exporters : Mapping) (names : List String) : Mapping :=
  names.foldl quieted exporters

theorem find?_field_quietAll {f : String} (hf : f ∈ queueFields) (k : String) :
    ∀ {names : List String}, (∀ n ∈ names, KeyPath.isNested n = false) → ∀ exporters : Mapping,
    ((exporters.quietAll names).exporter k).find? (.text f) =
      if k ∈ names ∧ k.toList.getLast? ≠ some ':' then off ((exporters.exporter k).find? (.text f))
      else (exporters.exporter k).find? (.text f)
  | [], _, exporters => by simp [quietAll]
  | name :: names, hn, exporters => by
    rw [List.forall_mem_cons] at hn
    have ih := find?_field_quietAll hf k hn.2 (exporters.quieted name)
    rw [quietAll, List.foldl_cons, ← quietAll, ih, find?_field_quieted hn.1 hf]
    -- Switching off twice is switching off once, so a name may come again.
    by_cases hlast : k.toList.getLast? = some ':'
    · simp [hlast]
    · by_cases hk : k = name
      · subst hk
        by_cases hm : k ∈ names <;> simp [hlast, hm, off_off]
      · simp [hlast, hk]

/-! ## No exporter under a tag is left -/

theorem isMapping_put {k : String} {exporters : Mapping} {path : List String}
    (hpath : 1 < path.length) (value : Node)
    (h : ∀ n, exporters.find? (.text k) = some n → n.isMapping = true) :
    ∀ n, (exporters.put value path).find? (.text k) = some n → n.isMapping = true := by
  obtain ⟨name, rest, rfl⟩ : ∃ name rest, path = name :: rest := by
    cases path with
    | nil => simp at hpath
    | cons name rest => exact ⟨name, rest, rfl⟩
  by_cases hk : k = name
  · subst hk
    rw [find?_put_self (by rintro rfl; simp at hpath)]
    split
    · rintro n ⟨⟩; rfl
    · exact h
  · rwa [find?_put_of_ne hk]

theorem isMapping_quieted {k name : String} (hn : KeyPath.isNested name = false)
    {exporters : Mapping}
    (h : k = name ∨ ∀ n, exporters.find? (.text k) = some n → n.isMapping = true) :
    ∀ n, (exporters.quieted name).find? (.text k) = some n → n.isMapping = true := by
  refine isMapping_put (KeyPath.length_segments_switch hn (mem_queueFields.mpr (.inr rfl))) _ ?_
  refine isMapping_put (KeyPath.length_segments_switch hn (mem_queueFields.mpr (.inl rfl))) _ ?_
  by_cases hk : k = name
  · subst hk
    rw [find?_opened_self]
    rintro n ⟨⟩; rfl
  · rw [find?_opened_of_ne hk]
    exact h.resolve_left hk

theorem isMapping_quietAll {k : String} :
    ∀ {names : List String}, (∀ n ∈ names, KeyPath.isNested n = false) →
    ∀ {exporters : Mapping},
    (k ∈ names ∨ ∀ n, exporters.find? (.text k) = some n → n.isMapping = true) →
    ∀ n, (exporters.quietAll names).find? (.text k) = some n → n.isMapping = true
  | [], _, exporters, h => h.resolve_left (by simp)
  | name :: names, hn, exporters, h => by
    rw [List.forall_mem_cons] at hn
    rw [quietAll, List.foldl_cons, ← quietAll]
    refine isMapping_quietAll hn.2 ?_
    rcases h with h | h
    · rcases List.mem_cons.mp h with hk | h
      · exact .inr (isMapping_quieted hn.1 (.inl hk))
      · exact .inl h
    · exact .inr (isMapping_quieted hn.1 (.inr h))

/-! ## When a switch is off -/

theorem reach?_off (field : Option Node) :
    ((off field).bind Node.entries?).bind (reach? ["enabled"]) = some (.bool false) ↔
      ¬ IsTaggedMapping field ∨
      (field.bind Node.entries?).bind (reach? ["enabled"]) = some (.bool false) := by
  unfold off
  cases h : Node.room? field with
  | none =>
    have ht : IsTaggedMapping field := Node.room?_eq_none_iff.mp h
    simp [ht]
  | some inner =>
    have ht : ¬ IsTaggedMapping field := fun ht => by
      simp [Node.room?_eq_none_iff.mpr ht] at h
    have he : ∀ m : Mapping, (Node.map m).entries? = some m := fun _ => rfl
    simp [ht, he, reach?_single, find?_insert_text]

theorem reach?_exporter {exporters : Mapping} {k : String}
    (h : ∀ n, exporters.find? (.text k) = some n → n.isMapping = true) (f g : String) :
    exporters.reach? [k, f, g] = (exporters.exporter k).reach? [f, g] := by
  cases hk : exporters.find? (.text k) with
  | none => rw [reach?_cons (List.cons_ne_nil f [g]), exporter, hk]; rfl
  | some n =>
    obtain ⟨inner, rfl⟩ := Node.isMapping_iff.mp (h n hk)
    rw [exporter_of_find? hk, reach?_cons (List.cons_ne_nil f [g]), hk]
    rfl

theorem isNested_names {exporters : Mapping} (hsingle : ∀ e ∈ exporters, e.1.IsSingle) :
    ∀ n ∈ exporters.filterMap (·.1.text?), KeyPath.isNested n = false := by
  intro n hn
  obtain ⟨e, he, ht⟩ := List.mem_filterMap.mp hn
  exact hsingle e he n ht

/-- A switch is off after all named exporters were switched off if it could be
put, or if it was off before. -/
theorem reach?_enabled_iff {f : String} (hf : f ∈ queueFields) {exporters : Mapping}
    (hsingle : ∀ e ∈ exporters, e.1.IsSingle) (k : String) :
    (exporters.quietAll (exporters.filterMap (·.1.text?))).reach? [k, f, "enabled"] =
        some (.bool false) ↔
      (k ∈ exporters.filterMap (·.1.text?) ∧ k.toList.getLast? ≠ some ':' ∧
        ¬ IsTaggedMapping ((exporters.exporter k).find? (.text f))) ∨
      (exporters.exporter k).reach? [f, "enabled"] = some (.bool false) := by
  have hnames := isNested_names hsingle
  have hmap : k ∈ exporters.filterMap (·.1.text?) ∨
      ∀ n, exporters.find? (.text k) = some n → n.isMapping = true := by
    cases hk : exporters.find? (.text k) with
    | none => exact .inr (by simp)
    | some n =>
      obtain ⟨key, hmem, hsame⟩ := mem_of_find? hk
      rw [Node.same_text_iff.mp hsame] at hmem
      exact .inl (List.mem_filterMap.mpr ⟨_, hmem, rfl⟩)
  have hreach : ∀ m : Mapping, m.reach? [f, "enabled"] =
      ((m.find? (.text f)).bind Node.entries?).bind (reach? ["enabled"]) :=
    reach?_cons (List.cons_ne_nil "enabled" [])
  rw [reach?_exporter (isMapping_quietAll hnames hmap), hreach, hreach,
    find?_field_quietAll hf k hnames]
  split
  · rename_i hk
    simp only [reach?_off, hk.1, hk.2, ne_eq, not_false_eq_true, true_and]
  · rename_i hk
    constructor
    · exact .inr
    · rintro (⟨hm, hlast, _⟩ | h)
      · exact absurd ⟨hm, hlast⟩ hk
      · exact h

end Mapping

/-! ## In a configuration -/

namespace Configuration

theorem segments_exporters : KeyPath.segments "exporters" = ["exporters"] := by decide

theorem segments_below_exporters (path : String) :
    KeyPath.segments ("exporters" ++ KeyPath.delimiter ++ path) =
      "exporters" :: KeyPath.segments path := by
  rw [KeyPath.segments_append (by decide), segments_exporters]
  rfl

/-- The configuration with a mapping under a path: the one there is, or an empty one. -/
def opened (c : Configuration) (path : String) : Configuration :=
  if (c.get? path).map Node.isMapping = some true then c else c.set path (.map [])

/-- One exporter is switched off in two steps: it is opened, and its switches are put. -/
theorem quietExporter_eq (c : Configuration) (name : String) :
    c.quietExporter name =
      ((c.opened (KeyPath.join ["exporters", name])).set
        (KeyPath.join [KeyPath.join ["exporters", name], "sending_queue", "enabled"])
        (.bool false)).set
        (KeyPath.join [KeyPath.join ["exporters", name], "retry_on_failure", "enabled"])
        (.bool false) := by
  unfold quietExporter opened
  generalize KeyPath.join ["exporters", name] = base
  cases hbase : c.get? base with
  | none => simp [hbase]
  | some n => cases n <;> simp [hbase, Node.isMapping]

/-- The configuration with other exporters. -/
def withExporters (c : Configuration) (exporters : Mapping) : Configuration :=
  ⟨c.root.insert (.text "exporters") (.map exporters)⟩

theorem find?_withExporters (c : Configuration) (exporters : Mapping) :
    (c.withExporters exporters).root.find? (.text "exporters") = some (.map exporters) := by
  rw [withExporters, Mapping.find?_insert_text, if_pos rfl]

theorem withExporters_of_find? {c : Configuration} {exporters : Mapping}
    (h : c.root.find? (.text "exporters") = some (.map exporters)) :
    c.withExporters exporters = c :=
  congrArg Configuration.mk (Mapping.insert_of_find? h)

/-- A value set under a path below the exporters is put in their mapping. -/
theorem set_below_exporters {path : String} {rest : List String}
    (hpath : KeyPath.segments path = "exporters" :: rest) (hr : rest ≠ []) (value : Node)
    (c : Configuration) (exporters : Mapping) :
    (c.withExporters exporters).set path value = c.withExporters (exporters.put value rest) := by
  rw [set, hpath, Mapping.put_cons hr, find?_withExporters]
  exact congrArg Configuration.mk (Mapping.insert_insert ..)

theorem opened_withExporters {name : String} (hn : KeyPath.isNested name = false)
    (c : Configuration) (exporters : Mapping) :
    (c.withExporters exporters).opened (KeyPath.join ["exporters", name]) =
      c.withExporters (exporters.opened name) := by
  have hbase : KeyPath.segments (KeyPath.join ["exporters", name]) = ["exporters", name] := by
    rw [KeyPath.join_two, segments_below_exporters, KeyPath.segments_of_plain hn]
  have hget : (c.withExporters exporters).get? (KeyPath.join ["exporters", name]) =
      exporters.find? (.text name) := by
    rw [get?, hbase, Mapping.reach?_cons (List.cons_ne_nil name []), find?_withExporters]
    rfl
  rw [opened, hget, set_below_exporters hbase (by simp), Mapping.put_single]
  unfold Mapping.opened
  cases exporters.find? (.text name) with
  | none => rfl
  | some n => cases n <;> rfl

/-- To switch off one exporter changes nothing but the exporters. -/
theorem quietExporter_withExporters {name : String} (hn : KeyPath.isNested name = false)
    (c : Configuration) (exporters : Mapping) :
    (c.withExporters exporters).quietExporter name = c.withExporters (exporters.quieted name) := by
  have hswitch : ∀ f, KeyPath.segments
      (KeyPath.join [KeyPath.join ["exporters", name], f, "enabled"]) =
        "exporters" :: KeyPath.segments (KeyPath.join [name, f, "enabled"]) := by
    intro f
    rw [← segments_below_exporters]
    simp only [KeyPath.join_two, KeyPath.join_three, String.append_assoc]
  have hne : ∀ f ∈ queueFields, KeyPath.segments (KeyPath.join [name, f, "enabled"]) ≠ [] := by
    intro f hf h
    have hlength := KeyPath.length_segments_switch hn hf
    simp [h] at hlength
  rw [quietExporter_eq, opened_withExporters hn,
    set_below_exporters (hswitch _) (hne _ (mem_queueFields.mpr (.inl rfl))),
    set_below_exporters (hswitch _) (hne _ (mem_queueFields.mpr (.inr rfl)))]
  rfl

theorem foldl_quietExporter (c : Configuration) :
    ∀ {names : List String}, (∀ n ∈ names, KeyPath.isNested n = false) →
    ∀ exporters : Mapping, names.foldl quietExporter (c.withExporters exporters) =
      c.withExporters (exporters.quietAll names)
  | [], _, _ => rfl
  | name :: names, hn, exporters => by
    rw [List.forall_mem_cons] at hn
    rw [List.foldl_cons, quietExporter_withExporters hn.1, foldl_quietExporter c hn.2]
    rfl

theorem get?_exporters (c : Configuration) :
    c.get? "exporters" = c.root.find? (.text "exporters") := by
  rw [get?, segments_exporters]
  rfl

/-- Exporters that are a mapping are switched off by their names. -/
theorem quietExporters?_of_map {c : Configuration} {given : Mapping}
    (h : c.root.find? (.text "exporters") = some (.map given))
    (hsingle : ∀ e ∈ given, e.1.IsSingle) :
    c.quietExporters? = some (c.withExporters (given.quietAll (given.filterMap (·.1.text?)))) := by
  have hfold := foldl_quietExporter c (Mapping.isNested_names hsingle) given
  rw [withExporters_of_find? h] at hfold
  rw [quietExporters?, get?_exporters, h, ← hfold]

/-- Where all exporters could be switched off and there are any afterwards, they
are those there were, switched off by their names. -/
theorem exporters_of_quietExporters? {c d : Configuration} {exporters : Mapping}
    (hs : (Node.map c.root).IsSpread) (h : c.quietExporters? = some d)
    (hd : d.root.find? (.text "exporters") = some (.map exporters)) :
    ∃ given : Mapping, c.root.find? (.text "exporters") = some (.map given) ∧
      (∀ e ∈ given, e.1.IsSingle) ∧
      exporters = given.quietAll (given.filterMap (·.1.text?)) := by
  cases hgiven : c.root.find? (.text "exporters") with
  | none =>
    rw [quietExporters?, get?_exporters, hgiven] at h
    cases h
    cases hgiven.symm.trans hd
  | some n =>
    cases n with
    | null =>
      rw [quietExporters?, get?_exporters, hgiven] at h
      cases h
      cases hgiven.symm.trans hd
    | map given =>
      have hsingle := (Node.isSpread_map_iff.mp (Node.isSpread_hereditary.find? hs hgiven)).1
      rw [quietExporters?_of_map hgiven hsingle] at h
      cases h
      rw [find?_withExporters] at hd
      cases hd
      exact ⟨given, rfl, hsingle, rfl⟩
    | _ =>
      rw [quietExporters?, get?_exporters, hgiven] at h
      cases h

end Configuration

end TelemetrySidecar
