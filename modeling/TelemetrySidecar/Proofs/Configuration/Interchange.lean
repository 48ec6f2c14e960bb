import TelemetrySidecar.Proofs.Configuration.Expansion
import TelemetrySidecar.Proofs.Configuration.Put
import TelemetrySidecar.Proofs.Configuration.Queues
import TelemetrySidecar.Resolution.Resolver

/-
  Expansion and the other operations

  Merging, putting a value under a path and looking one up branch on keys and on
  what kind of node stands under them. Expansion changes neither: it maps the
  values of a mapping and leaves its keys (`find?_expandEntries`,
  `expandEntries_insert`), and what was a mapping stays one, tagged or not
  (`isMapping_expand`, `room?_expand`).

  What is proved: so it can be done before or after. `expand_merge` says so of
  merging, `expand_set` of putting a value, `quietExporters?_expand` of
  switching off the queues, and `expansion_commutes` of the two converters,
  whether they give a configuration or refuse one.
-/

namespace TelemetrySidecar

namespace Node

variable (lookup : List Char → Option (List Char))

/-! ## Mappings -/

theorem find?_expandEntries (key : Node) (m : Mapping) :
    (expandEntries lookup m).find? key = (m.find? key).map (expand lookup) := by
  induction m with
  | nil => rfl
  | cons e m ih =>
    rw [expandEntries_cons, Mapping.find?_cons, Mapping.find?_cons]
    split
    · rfl
    · exact ih

theorem expandEntries_insert (key value : Node) (m : Mapping) :
    expandEntries lookup (m.insert key value) =
      (expandEntries lookup m).insert key (value.expand lookup) := by
  induction m with
  | nil => rfl
  | cons e m ih =>
    rw [Mapping.insert_cons, expandEntries_cons, Mapping.insert_cons]
    split
    · rfl
    · rw [expandEntries_cons, ih]

theorem names_expandEntries (m : Mapping) :
    (expandEntries lookup m).filterMap (·.1.text?) = m.filterMap (·.1.text?) := by
  rw [expandEntries_eq_map, List.filterMap_map]
  rfl

theorem isMapping_expand (n : Node) : (n.expand lookup).isMapping = n.isMapping := by
  cases n <;> rfl

/-! ## Merging -/

/-- The law of merging, where it holds of what is merged under each key. -/
theorem expandEntries_merge_of_each {entries : Mapping}
    (each : ∀ e ∈ entries, ∀ old, (mergeOver old e.2).expand lookup =
      mergeOver (old.map (expand lookup)) (e.2.expand lookup)) : ∀ target : Mapping,
    expandEntries lookup (target.merge entries) =
      (expandEntries lookup target).merge (expandEntries lookup entries) := by
  induction entries with
  | nil =>
    exact fun _ => rfl
  | cons e entries ih =>
    intro target
    rw [List.forall_mem_cons] at each
    rw [Mapping.merge_cons, ih each.2, expandEntries_insert, each.1, expandEntries_cons,
      Mapping.merge_cons, find?_expandEntries]

theorem expand_mergeOver (n : Node) : ∀ old : Option Node,
    (mergeOver old n).expand lookup = mergeOver (old.map (expand lookup)) (n.expand lookup) := by
  induction n using induct with
  | map entries _ ih =>
    intro old
    cases old with
    | none => rfl
    | some o =>
      cases o with
      | map existing =>
        have hmerge := expandEntries_merge_of_each lookup ih existing
        rw [Option.map_some, mergeOver_maps, expand_map, expand_map, expand_map, mergeOver_maps,
          hmerge]
      | _ => rfl
  | _ =>
    intro old
    rfl

theorem expandEntries_merge (a b : Mapping) :
    expandEntries lookup (a.merge b) =
      (expandEntries lookup a).merge (expandEntries lookup b) :=
  expandEntries_merge_of_each lookup (fun e _ => expand_mergeOver lookup e.2) a

/-! ## Paths -/

/-- There is room where there was, in the expanded mapping. -/
theorem room?_expand (o : Option Node) :
    room? (o.map (expand lookup)) = (room? o).map (expandEntries lookup) := by
  cases o with
  | none => rfl
  | some n =>
    cases n with
    | tagged tag value =>
      show room? (some (.tagged tag value)) = _
      simp only [room?]
      split <;> rfl
    | _ => rfl

theorem expandEntries_put (value : Node) (path : List String) : ∀ m : Mapping,
    expandEntries lookup (m.put value path) =
      (expandEntries lookup m).put (value.expand lookup) path := by
  induction path with
  | nil =>
    intro m
    rfl
  | cons key rest ih =>
    intro m
    by_cases hr : rest = []
    · subst hr
      exact expandEntries_insert lookup (.text key) value m
    · rw [Mapping.put_cons hr, Mapping.put_cons hr, find?_expandEntries, room?_expand]
      cases room? (m.find? (.text key)) with
      | none => rfl
      | some inner =>
        show expandEntries lookup (m.insert (.text key) (.map (inner.put value rest))) = _
        rw [expandEntries_insert, expand, ih]
        rfl

/-- What a path leads to is expanded, or stays as it is if the path led through a tag. -/
theorem reach?_expandEntries (path : List String) : ∀ m : Mapping, ∃ f : Node → Node,
    (f = expand lookup ∨ f = id) ∧
      (expandEntries lookup m).reach? path = (m.reach? path).map f := by
  induction path with
  | nil =>
    intro m
    exact ⟨id, .inr rfl, rfl⟩
  | cons key rest ih =>
    intro m
    cases rest with
    | nil => exact ⟨expand lookup, .inl rfl, find?_expandEntries lookup (.text key) m⟩
    | cons next rest =>
      simp only [Mapping.reach?_cons (List.cons_ne_nil next rest), find?_expandEntries]
      cases m.find? (.text key) with
      | none => exact ⟨id, .inr rfl, rfl⟩
      | some n =>
        cases n with
        | map inner => exact ih inner
        | tagged tag value => exact ⟨id, .inr rfl, by rw [Option.map_id]; rfl⟩
        | _ => exact ⟨id, .inr rfl, rfl⟩

end Node

/-! ## Configurations -/

namespace Configuration

variable (env : Environment)

theorem expand_merge (a b : Configuration) :
    (a.merge b).expand env = (a.expand env).merge (b.expand env) :=
  congrArg Configuration.mk (Node.expandEntries_merge env.lookup a.root b.root)

theorem expand_set (c : Configuration) (path : String) (value : Node) :
    (c.set path value).expand env = (c.expand env).set path (value.expand env.lookup) :=
  congrArg Configuration.mk (Node.expandEntries_put env.lookup value _ c.root)

theorem isMapping_get?_expand (c : Configuration) (path : String) :
    ((c.expand env).get? path).map Node.isMapping = (c.get? path).map Node.isMapping := by
  obtain ⟨f, hf, hreach⟩ := Node.reach?_expandEntries env.lookup (KeyPath.segments path) c.root
  have hkind : Node.isMapping ∘ f = Node.isMapping := by
    funext n
    cases hf with
    | inl h => rw [h, Function.comp_apply, Node.isMapping_expand]
    | inr h => rw [h, Function.comp_apply, id]
  show ((Node.expandEntries env.lookup c.root).reach? _).map Node.isMapping = _
  rw [hreach, Option.map_map, hkind]
  rfl

theorem opened_expand (c : Configuration) (path : String) :
    (c.expand env).opened path = (c.opened path).expand env := by
  unfold opened
  rw [isMapping_get?_expand]
  split
  · rfl
  · rw [expand_set]
    rfl

theorem quietExporter_expand (c : Configuration) (name : String) :
    (c.expand env).quietExporter name = (c.quietExporter name).expand env := by
  rw [quietExporter_eq, quietExporter_eq, opened_expand, expand_set, expand_set]
  rfl

theorem quietExporters?_expand (c : Configuration) :
    (c.expand env).quietExporters? = c.quietExporters?.map (expand env) := by
  have hget : (c.expand env).get? "exporters" =
      (c.get? "exporters").map (Node.expand env.lookup) := by
    rw [get?_exporters, get?_exporters]
    exact Node.find?_expandEntries env.lookup (.text "exporters") c.root
  rw [quietExporters?, quietExporters?, hget]
  cases c.get? "exporters" with
  | none => rfl
  | some n =>
    cases n with
    | map exporters =>
      show some _ = some _
      rw [Node.names_expandEntries, List.foldl_hom (expand env) (quietExporter_expand env)]
    | _ => rfl

/-- References can be put in before or after two configurations are merged, and before
or after the queues of the exporters are switched off, with the same configuration or
the same error. -/
theorem expansion_commutes :
    (∀ a b : Configuration, (a.merge b).expand env = (a.expand env).merge (b.expand env)) ∧
    ∀ c : Configuration,
      Resolver.convertAll c [Converter.expansion env, Converter.quietExporters] =
        (Resolver.convertAll c [Converter.quietExporters, Converter.expansion env] :
          Resolving Talk Configuration) := by
  refine ⟨expand_merge env, ?_⟩
  intro c
  simp only [Resolver.convertAll, Converter.expansion, Converter.quietExporters, pure_bind,
    quietExporters?_expand]
  cases c.quietExporters? with
  | none => rfl
  | some d => rfl

end Configuration

end TelemetrySidecar
