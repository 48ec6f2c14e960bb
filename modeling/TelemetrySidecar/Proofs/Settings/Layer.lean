import TelemetrySidecar.Proofs.Settings.Table
import Mathlib.Data.List.Pairwise

/-
  The tables of the layers

  Each layer is a relation between paths of keys and values (`Gives`), told from the file
  and the variables themselves, and a table.

  What is proved: the values of documents and of variables ascend (`ascending_ofItem`,
  `ascending_ofText`), and the table of a file, of the well-known variables
  (`standardLayer_eq`) and of the extension's own variables, laid one over another
  (`ownLayer_stands`), give what their layers give.
-/

namespace TelemetrySidecar.Setting

open Settings (reach?)

/-! ## Values of documents -/

mutual

theorem ascending_ofItem : ∀ item : Toml.Item, Ascending (ofItem item)
  | .table _ entries => by
    rw [ofItem]
    exact ascending_ofEntries entries
  | .moment written => by
    rw [ofItem]
    exact .table (List.pairwise_singleton _ _) (by simpa using .leaf rfl)
  | .bool _ | .int _ | .float _ | .text _ | .list _ | .tables _ => by
    rw [ofItem]
    exact .leaf rfl

theorem ascending_ofEntries : ∀ entries : List (String × Toml.Item),
    Ascending (.table (ofEntries entries))
  | [] => by
    rw [ofEntries]
    exact ascending_empty
  | (key, item) :: rest => by
    rw [ofEntries]
    exact ascending_put (ascending_ofEntries rest) (ascending_ofItem item)

end

/-! ## Values of variables -/

namespace Inline

theorem isTable_of_takeInteger {word : List Char} {v : Setting} (h : takeInteger word = some v) :
    v.isTable = false := by
  unfold takeInteger at h
  grind [isTable]

theorem isTable_wordValue (word : List Char) : (wordValue word).isTable = false := by
  unfold wordValue
  dsimp only
  split
  · rfl
  · cases found : takeInteger word with
    | none => rfl
    | some v => exact isTable_of_takeInteger found

theorem ascending_takeValue {fuel : Nat} {s rest : List Char} {v : Setting}
    (entries : ∀ s es rest, takeEntries fuel s = some (es, rest) → ∀ e ∈ es, Ascending e.2)
    (h : takeValue (fuel + 1) s = some (v, rest)) : Ascending v := by
  rw [takeValue] at h
  obtain ⟨⟨v, rest⟩, found, same⟩ := Option.map_eq_some_iff.mp h
  cases same
  -- Only what stands between braces is a table.
  split at found
  · cases found
    exact .leaf rfl
  · cases found
    exact .leaf rfl
  · obtain ⟨⟨es, rest⟩, taken, same⟩ := Option.map_eq_some_iff.mp found
    cases same
    exact ascending_table_ofEntries (entries _ _ _ taken)
  · obtain ⟨_, _, same⟩ := Option.map_eq_some_iff.mp found
    cases same
    exact .leaf rfl
  · obtain ⟨_, _, same⟩ := Option.map_eq_some_iff.mp found
    cases same
    exact .leaf rfl
  · split at found
    · cases found
      exact .leaf rfl
    · cases found
  · cases found
    exact .leaf (isTable_wordValue _)

theorem ascending_takeEntries {fuel : Nat} {s rest : List Char} {es : List (String × Setting)}
    (value : ∀ s v rest, takeValue fuel s = some (v, rest) → Ascending v)
    (entries : ∀ s es rest, takeEntries fuel s = some (es, rest) → ∀ e ∈ es, Ascending e.2)
    (h : takeEntries (fuel + 1) s = some (es, rest)) : ∀ e ∈ es, Ascending e.2 := by
  unfold takeEntries at h
  split at h
  · cases h
    simp
  · split at h
    · cases h
    · split at h
      · split at h
        · cases h
        · rename_i item rest found
          have ascending := value _ _ _ found
          split at h
          · obtain ⟨⟨more, rest⟩, taken, same⟩ := Option.map_eq_some_iff.mp h
            cases same
            exact List.forall_mem_cons.mpr ⟨ascending, entries _ _ _ taken⟩
          · cases h
            simpa using ascending
          · cases h
      · cases h

theorem ascending_take (fuel : Nat) :
    (∀ s v rest, takeValue fuel s = some (v, rest) → Ascending v) ∧
      ∀ s es rest, takeEntries fuel s = some (es, rest) → ∀ e ∈ es, Ascending e.2 := by
  -- Values are read within entries and entries within values, each with less fuel.
  induction fuel with
  | zero => exact ⟨nofun, nofun⟩
  | succ fuel ih =>
    obtain ⟨value, entries⟩ := ih
    exact ⟨fun _ _ _ h => ascending_takeValue entries h,
      fun _ _ _ h => ascending_takeEntries value entries h⟩

end Inline

theorem ascending_ofText (s : String) : Ascending (ofText s) := by
  unfold ofText
  dsimp only
  split
  · rename_i found
    exact (Inline.ascending_take _).1 _ _ _ found
  · exact .leaf rfl

/-- What a value under a path gives: what it holds below the path, and tables on the way. -/
theorem reach?_nested {keys path : List String} {value v : Setting} :
    reach? keys (nested path value) = some v ↔
      (∃ rest, keys = path ++ rest ∧ reach? rest value = some v) ∨
        ∃ more, more ≠ [] ∧ path = keys ++ more ∧ v = nested more value := by
  induction path generalizing keys with
  | nil => simp [nested]
  | cons key path ih =>
    cases keys with
    | nil => simp [reach?, nested, eq_comm]
    | cons first keys =>
      rw [nested, reach?_cons, lookup_cons]
      by_cases same : first = key
      · subst same
        simpa using ih
      · simp [same, Ne.symm same]

theorem isTable_nested {path : List String} (h : path ≠ []) (value : Setting) :
    (nested path value).isTable = true := by
  cases path with
  | nil => exact absurd rfl h
  | cons key rest => rfl

end TelemetrySidecar.Setting

namespace TelemetrySidecar.Settings

open Setting (Table Ascending Descends)

variable {files : Files} {path : String} {env : Environment} {keys : List String} {v : Setting}

/-! ## What each layer gives -/

/-- A value that a layer gives under a path of keys. -/
abbrev Gives := List String → Setting → Prop

/-- The defaults. -/
def defaultGives : Gives := fun keys v => reach? keys (.table defaultLayer) = some v

/-- The document in a file, if there is one. -/
def fileGives (files : Files) (path : String) : Gives := fun keys v =>
  ∃ text entries, files.readText path = .ok text ∧ Toml.ofText? text.toList = some entries ∧
    reach? keys (.table (Setting.ofEntries entries)) = some v

/-- The two well-known variables: an address that is not empty, and the whole of a source
that is not blank, without the blanks around it. -/
def standardGives (env : Environment) : Gives := fun keys v =>
  (keys = ["collector", "config_uris"] ∧ ∃ source, env.text? configVariable = some source ∧
    Text.trimmed source ≠ "" ∧ v = .list [.text (Text.trimmed source)]) ∨
  (keys = ["runtime_api"] ∧ ∃ address, env.text? runtimeVariable = some address ∧
    address ≠ "" ∧ v = .text address)

/-- The path that a variable of the extension's own names, and its value. -/
def ownVariable? (v : String × List UInt8) : Option (List String × Setting) :=
  (path? v.1).map fun path => (path, Setting.ofText (String.ofList (Text.decodeLossy v.2)))

/-- The extension's own variables. -/
def ownVariables (env : Environment) : List (List String × Setting) :=
  env.entries.filterMap ownVariable?

/-- The extension's own variables: each gives what its value holds below the path it names. -/
def ownGives (env : Environment) : Gives := fun keys v =>
  ∃ own ∈ ownVariables env, ∃ rest, keys = own.1 ++ rest ∧ reach? rest own.2 = some v

/-! ## The tables of the layers -/

theorem path?_ne_nil {name : String} (h : path? name = some keys) : keys ≠ [] := by
  unfold path? at h
  dsimp only at h
  split at h
  · cases h
  · split at h
    · cases h
    · cases h
      simpa using Text.pieces_ne_nil '.' _

theorem ascending_defaultLayer : Ascending (.table defaultLayer) := by
  refine .table (by decide +kernel) ?_
  simp only [defaultLayer, List.forall_mem_cons, List.not_mem_nil, false_imp_iff, implies_true,
    and_true]
  exact ⟨Setting.ascending_of_leaves (by decide +kernel) (by decide +kernel),
    Setting.ascending_of_leaves (by decide +kernel) (by decide +kernel), .leaf rfl,
    Setting.ascending_of_leaves (by decide +kernel) (by decide +kernel)⟩

theorem reach?_empty (nonempty : keys ≠ []) : reach? keys (.table []) = none := by
  cases keys with
  | nil => exact absurd rfl nonempty
  | cons key rest => rfl

theorem fileLayer_eq_ok {t : Table} (h : fileLayer files path = .ok t) :
    Ascending (.table t) ∧
      ∀ keys ≠ [], ∀ v, reach? keys (.table t) = some v ↔ fileGives files path keys v := by
  unfold fileLayer at h
  unfold fileGives
  split at h
  · rename_i text read
    split at h
    · rename_i entries parsed
      cases h
      refine ⟨Setting.ascending_ofEntries entries, fun keys _ v => ?_⟩
      simp [read, parsed]
    · cases h
  · cases h
  · rename_i fault read
    cases h
    refine ⟨Setting.ascending_empty, fun keys nonempty v => ?_⟩
    simp [reach?_empty nonempty, read]

/-- The source in its well-known variable; none if it is unset, no text or blank. -/
def standardUri? (env : Environment) : Option String :=
  ((env.text? configVariable).map Text.trimmed).filter (· ≠ "")

/-- The address in its well-known variable; none if it is unset, no text or empty. -/
def standardAddress? (env : Environment) : Option String :=
  (env.text? runtimeVariable).filter (· ≠ "")

theorem standardGives_iff : standardGives env keys v ↔
    (keys = ["collector", "config_uris"] ∧ ∃ uri, standardUri? env = some uri ∧
      v = .list [.text uri]) ∨
    (keys = ["runtime_api"] ∧ ∃ address, standardAddress? env = some address ∧
      v = .text address) := by
  unfold standardGives standardUri? standardAddress?
  simp [Option.filter_eq_some_iff, and_assoc]

theorem standardLayer_eq (env : Environment) : standardLayer env =
    ((standardUri? env).map fun uri =>
      ("collector", Setting.table [("config_uris", .list [.text uri])])).toList ++
    ((standardAddress? env).map fun address => ("runtime_api", Setting.text address)).toList := by
  unfold standardLayer standardUri? standardAddress?
  dsimp only
  congr 1
  · cases (env.text? configVariable).map Text.trimmed with
    | none => rfl
    | some uri => by_cases h : uri = "" <;> simp [h, Option.filter_some]
  · cases env.text? runtimeVariable with
    | none => rfl
    | some uri => by_cases h : uri = "" <;> simp [h, Option.filter_some]

/-- The entries of the table with a value under a path. -/
def entriesOf : List String × Setting → Table
  | ([], _) => []
  | (key :: rest, value) => [(key, Setting.nested rest value)]

theorem table_entriesOf {own : List String × Setting} (h : own.1 ≠ []) :
    Setting.table (entriesOf own) = Setting.nested own.1 own.2 := by
  obtain ⟨_ | ⟨key, rest⟩, value⟩ := own
  · exact absurd rfl h
  · rfl

theorem ownLayer_eq (env : Environment) :
    ownLayer env = ((ownVariables env).map entriesOf).foldl Setting.tableOver [] := by
  unfold ownLayer ownVariables
  rw [List.foldl_map, List.foldl_filterMap]
  congr 1
  funext t v
  unfold ownVariable?
  cases named : path? v.1 with
  | none => rfl
  | some keys =>
    cases keys with
    | nil => exact absurd rfl (path?_ne_nil named)
    | cons key rest => rfl

/-- The paths that two variables name differ, and neither begins the other. -/
def Unrelated (a b : List String × Setting) : Prop := ¬ a.1 <+: b.1 ∧ ¬ b.1 <+: a.1

instance : Std.Symm Unrelated := ⟨fun _ _ h => ⟨h.2, h.1⟩⟩

/-- No two of the extension's own variables name the same path, or a path and one above it. -/
def Apart (env : Environment) : Prop := (ownVariables env).Pairwise Unrelated

theorem Apart.eq {a b : List String × Setting} (h : Apart env) (ha : a ∈ ownVariables env)
    (hb : b ∈ ownVariables env) (above : a.1 <+: keys) (above' : b.1 <+: keys) : a = b := by
  by_contra differ
  obtain ⟨before, after⟩ := List.Pairwise.forall h ha hb differ
  exact (List.prefix_or_prefix_of_prefix above above').elim before after

theorem path_ne_nil_of_mem {own : List String × Setting} (h : own ∈ ownVariables env) :
    own.1 ≠ [] := by
  obtain ⟨v, _, given⟩ := List.mem_filterMap.mp h
  obtain ⟨path, named, rfl⟩ := Option.map_eq_some_iff.mp given
  exact path?_ne_nil named

theorem ascending_entriesOf {own : List String × Setting} (h : own ∈ ownVariables env) :
    Ascending (.table (entriesOf own)) := by
  rw [table_entriesOf (path_ne_nil_of_mem h)]
  obtain ⟨v, _, named⟩ := List.mem_filterMap.mp h
  obtain ⟨path, _, rfl⟩ := Option.map_eq_some_iff.mp named
  exact Setting.ascending_nested (Setting.ascending_ofText _) _

/-- A table can be laid under or over others with tables only on the way along a path, and
gives there what a layer gives: nothing, or its only value. If it gives a table, what the
layer gives does not matter. -/
structure Stands (gives : Gives) (keys : List String) (t : Table) : Prop where
  ascending : Ascending (.table t)
  descends : Descends keys (.table t)
  nothing : reach? keys (.table t) = none → ∀ u, ¬ gives keys u
  only : ∀ {v}, reach? keys (.table t) = some v → v.isTable = false → ∀ u, gives keys u ↔ u = v

theorem Stands.of_iff {gives : Gives} {t : Table} (ascending : Ascending (.table t))
    (descends : Descends keys (.table t))
    (h : ∀ v, reach? keys (.table t) = some v ↔ gives keys v) : Stands gives keys t where
  ascending
  descends
  nothing none u given := by simp [none] at h; exact h u given
  only found _ u := by
    rw [← h, found]
    exact ⟨fun same => (Option.some.inj same).symm, fun same => same ▸ rfl⟩

theorem descends_empty : Descends keys (.table []) := by
  refine Setting.descends_of_prefixes fun front _ _ u reached => ?_
  cases front with
  | nil =>
    cases reached
    rfl
  | cons key rest => cases reached

/-- A variable gives a value that is no table by its own table, and no other variable gives
another there. -/
theorem ownGives_iff_of_reach? {own : List String × Setting} (apart : Apart env)
    (hown : own ∈ ownVariables env) (reached : reach? keys (Setting.nested own.1 own.2) = some v)
    (leaf : v.isTable = false) (u : Setting) : ownGives env keys u ↔ u = v := by
  rcases Setting.reach?_nested.mp reached with ⟨rest, split, given⟩ | ⟨more, longer, _, rfl⟩
  · constructor
    · rintro ⟨own', hown', rest', split', given'⟩
      cases apart.eq hown hown' ⟨rest, split.symm⟩ ⟨rest', split'.symm⟩
      cases List.append_cancel_left (split.symm.trans split')
      exact Option.some.inj (given'.symm.trans given)
    · rintro rfl
      exact ⟨own, hown, rest, split, given⟩
  · cases (Setting.isTable_nested longer own.2).symm.trans leaf

/-- The table of the extension's own variables. -/
theorem ownLayer_stands (apart : Apart env) (nonempty : keys ≠ [])
    (descends : ∀ own ∈ ownVariables env, Descends keys (Setting.nested own.1 own.2)) :
    Stands (ownGives env) keys (ownLayer env) := by
  have tables : ∀ t ∈ [] :: (ownVariables env).map entriesOf,
      Ascending (.table t) ∧ Descends keys (.table t) := by
    refine List.forall_mem_cons.mpr ⟨⟨Setting.ascending_empty, descends_empty⟩, fun t ht => ?_⟩
    obtain ⟨own, hown, rfl⟩ := List.mem_map.mp ht
    refine ⟨ascending_entriesOf hown, ?_⟩
    rw [table_entriesOf (path_ne_nil_of_mem hown)]
    exact descends own hown
  obtain ⟨ascending, descend, same⟩ := Setting.reach?_layers tables
  rw [← ownLayer_eq] at ascending descend same
  refine ⟨ascending, descend, ?_, ?_⟩
  · -- What a variable gives stands in its own table, and all of these are among the layers.
    rintro unreached u ⟨own, hown, rest, split, given⟩
    have highest := same.eq (by simp [unreached])
    rw [unreached, Setting.highest?, List.findSome?_eq_none_iff] at highest
    have unreached := highest (entriesOf own)
      (List.mem_reverse.mpr (List.mem_cons_of_mem _ (List.mem_map_of_mem hown)))
    rw [table_entriesOf (path_ne_nil_of_mem hown)] at unreached
    cases unreached.symm.trans (Setting.reach?_nested.mpr (.inl ⟨rest, split, given⟩))
  · intro v found leaf
    have highest := same.eq (by simp [found, leaf])
    rw [found] at highest
    obtain ⟨t, ht, reached⟩ := List.exists_of_findSome?_eq_some highest
    -- The empty table below all others gives nothing, so a variable's own does.
    rcases List.mem_cons.mp (List.mem_reverse.mp ht) with rfl | ht
    · cases (reach?_empty nonempty).symm.trans reached
    · obtain ⟨own, hown, rfl⟩ := List.mem_map.mp ht
      rw [table_entriesOf (path_ne_nil_of_mem hown)] at reached
      exact ownGives_iff_of_reach? apart hown reached leaf

end TelemetrySidecar.Settings
