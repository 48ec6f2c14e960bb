import TelemetrySidecar.Configuration.KeyPath

/-
  Reading key paths

  A delimiter after a text that does not end with a colon ends the text's last
  key (`keys_append`). After one that does, the first two of three colons are
  read as the delimiter, so the key before them loses its colon and the key
  after them begins with one (`segments_append_colon`). Keys that are read hold
  no delimiter themselves (`keys_of_mem`), and joined they give the path back
  (`intercalate_keys`). The other way round, a key that holds no delimiter and
  does not end with a colon is read as it was joined (`segments_join_cons`).
-/

namespace TelemetrySidecar.KeyPath

/-- A character that begins no delimiter belongs to the first key. -/
theorem keys_cons {c : Char} {s key : List Char} {rest : List (List Char)}
    (hc : ¬ (c = ':' ∧ s.head? = some ':')) (hs : keys s = key :: rest) :
    keys (c :: s) = (c :: key) :: rest := by
  rw [keys.eq_def]
  split
  · simp_all
  · simp_all
  · rename_i hcs
    obtain ⟨rfl, rfl⟩ := List.cons.inj hcs
    simp [hs]

/-- Of three colons the third belongs to the key after them. -/
example : keys "a:::b".toList = ["a".toList, ":b".toList] := by cbv

/-- The first key begins as the path does. -/
theorem head?_of_keys {s key : List Char} {rest : List (List Char)} {d : Char}
    (h : keys s = (d :: key) :: rest) : s.head? = some d := by
  rw [keys.eq_def] at h
  split at h
  · simp at h
  · simp at h
  · rename_i c s _ hcs
    split at h
    · simp at h; simp [h.1.1]
    · simp at h; simp [h.1.1]

theorem keys_append {a : List Char} (ha : a.getLast? ≠ some ':') (b : List Char) :
    keys (a ++ ':' :: ':' :: b) = keys a ++ keys b := by
  fun_induction keys a with
  | case1 s ih =>
    have hs : s.getLast? ≠ some ':' := by
      cases s with
      | nil => simp at ha
      | cons c s => simpa using ha
    simp [keys, ih hs]
  | case2 => simp [keys]
  | case3 c s _ hs => exact absurd hs (keys_ne_nil s)
  | case4 c s hne key rest hs ih =>
    have hlast : s.getLast? ≠ some ':' := by
      cases s with
      | nil => simp
      | cons d s => simpa using ha
    -- A delimiter in front would already stand in `a`, or `a` would end with a colon.
    have hcs : ¬ (c = ':' ∧ (s ++ ':' :: ':' :: b).head? = some ':') := by
      rintro ⟨rfl, hh⟩
      cases s with
      | nil => simp at ha
      | cons d s =>
        simp at hh
        exact hne s rfl (by rw [hh])
    have hk := ih hlast
    rw [hs, List.cons_append] at hk
    rw [List.cons_append, keys_cons hcs hk, List.cons_append]

/-- Reading a path loses nothing but the delimiters. -/
theorem intercalate_keys (s : List Char) : [':', ':'].intercalate (keys s) = s := by
  fun_induction keys s with
  | case1 s ih =>
    cases hs : keys s with
    | nil => exact absurd hs (keys_ne_nil s)
    | cons key rest =>
      rw [List.intercalate_cons_cons, ← hs, ih]
      rfl
  | case2 => rfl
  | case3 c s _ hs => exact absurd hs (keys_ne_nil s)
  | case4 c s _ key rest hs ih =>
    rw [hs] at ih
    cases rest with
    | nil => simpa using ih
    | cons next rest =>
      rw [List.intercalate_cons_cons] at ih ⊢
      simpa using ih

/-- No key of a path is a path of more keys. -/
theorem keys_of_mem {s key : List Char} (h : key ∈ keys s) : keys key = [key] := by
  fun_induction keys s generalizing key with
  | case1 s ih =>
    rcases List.mem_cons.mp h with rfl | h
    · rfl
    · exact ih h
  | case2 => simp at h; subst h; rfl
  | case3 c s _ hs => exact absurd hs (keys_ne_nil s)
  | case4 c s hne first rest hs ih =>
    rw [hs] at ih
    rcases List.mem_cons.mp h with rfl | h
    -- The first key begins as the path does, so a delimiter would stand in the path.
    · refine keys_cons ?_ (ih List.mem_cons_self)
      rintro ⟨rfl, hh⟩
      cases first with
      | nil => simp at hh
      | cons d first =>
        simp at hh; subst hh
        have hd := head?_of_keys hs
        cases s with
        | nil => simp at hd
        | cons d s => simp at hd; exact hne s rfl (by rw [hd])
    · exact ih (List.mem_cons_of_mem first h)

/-- A path names more than one key exactly if the delimiter stands in it. -/
theorem length_keys_iff {s : List Char} : (keys s).length > 1 ↔ [':', ':'] <:+: s := by
  constructor
  · intro h
    have hjoin := intercalate_keys s
    match hk : keys s with
    | [] => exact absurd hk (keys_ne_nil s)
    | [key] => simp [hk] at h
    | key :: next :: rest =>
      rw [hk, List.intercalate_cons_cons] at hjoin
      exact ⟨key, _, by simpa using hjoin⟩
  · intro h
    fun_induction keys s with
    | case1 s ih =>
      have := List.length_pos_iff.mpr (keys_ne_nil s)
      simp; omega
    | case2 => simp at h
    | case3 c s _ hs => exact absurd hs (keys_ne_nil s)
    | case4 c s hne key rest hs ih =>
      rw [hs] at ih
      rcases List.infix_cons_iff.mp h with hp | h
      · obtain ⟨rfl, t, rfl⟩ := List.cons_prefix_cons.mp hp
        exact absurd rfl (hne t rfl)
      · simpa using ih h

/-! ## Paths as strings -/

theorem isNested_iff {s : String} : isNested s = true ↔ [':', ':'] <:+: s.toList := by
  rw [← length_keys_iff]
  simp [isNested]

/-- A key that does not hold the delimiter. -/
def Undivided (key : String) : Prop := ¬ delimiter.toList <:+: key.toList

theorem undivided_iff {key : String} : Undivided key ↔ isNested key = false := by
  have hdelimiter : delimiter.toList = [':', ':'] := by decide
  rw [Undivided, hdelimiter, ← isNested_iff, Bool.not_eq_true]

theorem segments_append {a : String} (ha : a.toList.getLast? ≠ some ':') (b : String) :
    segments (a ++ delimiter ++ b) = segments a ++ segments b := by
  have h : (a ++ delimiter ++ b).toList = a.toList ++ ':' :: ':' :: b.toList := by
    simp [delimiter]
  rw [segments, h, keys_append ha, List.map_append]
  rfl

theorem segments_append_colon {a : String} (ha : a.toList.getLast? ≠ some ':') (b : String) :
    segments (a ++ ":" ++ delimiter ++ b) = segments a ++ segments (":" ++ b) := by
  have h : a ++ ":" ++ delimiter ++ b = a ++ delimiter ++ (":" ++ b) := by
    rw [← String.toList_inj]
    simp [delimiter]
  rw [h, segments_append ha]

theorem keys_of_plain {s : String} (h : isNested s = false) : keys s.toList = [s.toList] := by
  cases hk : keys s.toList with
  | nil => exact absurd hk (keys_ne_nil _)
  | cons key rest =>
    obtain rfl : rest = [] := by simpa [isNested, hk] using h
    have hjoin := intercalate_keys s.toList
    simp only [hk, List.intercalate_singleton] at hjoin
    rw [hjoin]

theorem segments_of_plain {s : String} (h : isNested s = false) : segments s = [s] := by
  simp [segments, keys_of_plain h]

/-! ## Joined keys -/

theorem join_single (key : String) : join [key] = key := by
  simp [join]

theorem join_cons {rest : List String} (hr : rest ≠ []) (key : String) :
    join (key :: rest) = key ++ delimiter ++ join rest := by
  cases rest with
  | nil => exact absurd rfl hr
  | cons next rest => simp [join, String.intercalate_cons_cons]

/-- A joined key that neither holds the delimiter nor ends with a colon is the
first one that is read. -/
theorem segments_join_cons {key : String} {rest : List String} (hr : rest ≠ [])
    (hkey : Undivided key) (hlast : key.toList.getLast? ≠ some ':') :
    segments (join (key :: rest)) = key :: segments (join rest) := by
  rw [join_cons hr, segments_append hlast, segments_of_plain (undivided_iff.mp hkey)]
  rfl

theorem isNested_of_mem_segments {path s : String} (h : s ∈ segments path) :
    isNested s = false := by
  simp only [segments, List.mem_map] at h
  obtain ⟨key, hkey, rfl⟩ := h
  simp [isNested, keys_of_mem hkey]

end TelemetrySidecar.KeyPath
