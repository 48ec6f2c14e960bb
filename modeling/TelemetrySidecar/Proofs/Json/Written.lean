import TelemetrySidecar.Json.Value

/-
  Values as they are written

  A value of a request is written without spaces, its integers in digits and its strings
  with escapes where they are needed.

  What is proved: every character is read back from what is written of it
  (`takeString_writeChar`), every integer up to what ends a number (`takeNumber_append`),
  and so every value (`Value.readsBack`): its text is one document, which is its tree
  (`Value.ofText_toText`). A number that is no integer is written as null.
-/

namespace TelemetrySidecar.Json

/-! ## Numbers -/

/-- Glyphs that do not go on with a number before them. -/
def EndsNumber (s : List Glyph) : Prop :=
  ∀ g ∈ s.head?, isDigitGlyph g = false ∧ g ≠ some '.' ∧ g ≠ some 'e' ∧ g ≠ some 'E'

theorem takeDigits_append {digits : List Char} {rest : List Glyph}
    (all : ∀ c ∈ digits, c.isDigit = true) (ends : ∀ g ∈ rest.head?, isDigitGlyph g = false) :
    takeDigits (digits.map some ++ rest) = (digits, rest) := by
  have ahead : ∀ g ∈ digits.map some, isDigitGlyph g = true := by
    intro g hg
    obtain ⟨c, hc, rfl⟩ := List.mem_map.mp hg
    exact all c hc
  have stop : rest.takeWhile isDigitGlyph = [] ∧ rest.dropWhile isDigitGlyph = rest := by
    cases rest with
    | nil => exact ⟨rfl, rfl⟩
    | cons g rest =>
      have hg := ends g rfl
      simp [hg]
  rw [takeDigits, List.takeWhile_append_of_pos ahead, List.dropWhile_append_of_pos ahead,
    stop.1, stop.2]
  simp

/-- The digits of a number begin with a zero only if the number is zero. -/
theorem toDigits_eq_zero_cons {n : Nat} : ∀ {more : List Char},
    Nat.toDigits 10 n = '0' :: more → more = [] := by
  induction n using Nat.strongRecOn with
  | ind n ih =>
    intro more h
    rw [Nat.toDigits_eq_if (by decide)] at h
    split at h
    · exact (List.cons.inj h).2.symm
    · rename_i large
      cases front : Nat.toDigits 10 (n / 10) with
      | nil => exact absurd front Nat.toDigits_ne_nil
      | cons c cs =>
        rw [front, List.cons_append] at h
        obtain ⟨rfl, h⟩ := List.cons.inj h
        have alone := ih (n / 10) (by omega) front
        subst alone
        have zero : Nat.ofDigitChars 10 (Nat.toDigits 10 (n / 10)) 0 = 0 := by rw [front]; rfl
        rw [Nat.ofDigitChars_ten_toDigits] at zero
        omega

theorem takeWhole_append {n : Nat} {rest : List Glyph} (ends : EndsNumber rest) :
    takeWhole ((Nat.toDigits 10 n).map some ++ rest) = .ok (Nat.toDigits 10 n, rest) := by
  have digits : takeDigits ((Nat.toDigits 10 n).map some ++ rest) = (Nat.toDigits 10 n, rest) :=
    takeDigits_append (fun c hc => Nat.isDigit_of_mem_toDigits (by decide) (by decide) hc)
      (fun g hg => (ends g hg).1)
  have atLeast : takeDigits1 ((Nat.toDigits 10 n).map some ++ rest) =
      .ok (Nat.toDigits 10 n, rest) := by
    rw [takeDigits1, digits]
    split
    · rename_i h
      exact absurd (congrArg Prod.fst h) Nat.toDigits_ne_nil
    · rfl
  rw [takeWhole, atLeast]
  split
  · rename_i h
    rw [Except.ok.injEq, Prod.mk.injEq] at h
    cases toDigits_eq_zero_cons h.1
  · rfl

theorem takeFraction_of_ends {s : List Glyph} (ends : EndsNumber s) :
    takeFraction s = .ok ([], s) := by
  unfold takeFraction
  split
  · exact absurd rfl (ends _ rfl).2.1
  · rfl

theorem takeExponent_of_ends {s : List Glyph} (ends : EndsNumber s) :
    takeExponent s = .ok ([], s) := by
  unfold takeExponent
  dsimp only
  split
  · exact absurd rfl (ends _ rfl).2.2.1
  · exact absurd rfl (ends _ rfl).2.2.2
  · rfl

theorem toList_toString_natCast (n : Nat) :
    (toString (Int.ofNat n)).toList = Nat.toDigits 10 n := by
  have : toString (Int.ofNat n) = n.repr := rfl
  rw [this, Nat.repr_eq_ofList_toDigits, String.toList_ofList]

theorem toList_toString_negSucc (n : Nat) :
    (toString (Int.negSucc n)).toList = '-' :: Nat.toDigits 10 (n + 1) := by
  have : toString (Int.negSucc n) = "-" ++ (n + 1).repr := rfl
  simp [this, Nat.repr_eq_ofList_toDigits]

theorem digits_ne_minus {n : Nat} {c : Char} (h : c ∈ Nat.toDigits 10 n) : c ≠ '-' := by
  rintro rfl
  exact absurd (Nat.isDigit_of_mem_toDigits (by decide) (by decide) h) (by decide)

/-- An integer is taken as it is written. -/
theorem takeNumber_append {i : Int} {rest : List Glyph} (ends : EndsNumber rest) :
    takeNumber ((toString i).toList.map some ++ rest) = .ok ((toString i).toList, rest) := by
  have whole {n : Nat} : takeWhole ((Nat.toDigits 10 n).map some ++ rest) =
      .ok (Nat.toDigits 10 n, rest) := takeWhole_append ends
  cases i with
  | ofNat n =>
    rw [toList_toString_natCast]
    unfold takeNumber
    split
    rename_i sign s split_eq
    have unsigned : (sign, s) = ([], (Nat.toDigits 10 n).map some ++ rest) := by
      rw [← split_eq]
      split
      · rename_i after h
        cases digits : Nat.toDigits 10 n with
        | nil => exact absurd digits Nat.toDigits_ne_nil
        | cons c cs =>
          rw [digits] at h
          cases h
          exact absurd rfl (digits_ne_minus (n := n) (digits ▸ List.mem_cons_self))
      · rfl
    cases unsigned
    simp [whole, takeFraction_of_ends ends, takeExponent_of_ends ends]
  | negSucc n =>
    rw [toList_toString_negSucc]
    simp [takeNumber, whole, takeFraction_of_ends ends, takeExponent_of_ends ends]

/-! ## Strings -/

theorem digitValue?_digitChar {n : Nat} (h : n < 16) :
    Text.digitValue? (Nat.digitChar n) = some n := by
  have all : ∀ n < 16, Text.digitValue? (Nat.digitChar n) = some n := by decide
  exact all n h

/-- What is written of a character is taken as this character. -/
theorem takeString_writeChar (c : Char) (fuel : Nat) (s : List Glyph) :
    takeString false (fuel + 1) ((writeChar c).map some ++ s) =
      (takeString false fuel s).map fun p => (c :: p.1, p.2) := by
  unfold writeChar
  -- Seven characters have a letter of their own.
  iterate 7
    split
    · subst c
      rfl
  split
  · rename_i control
    have code : takeCode (some '0' :: some '0' :: some (Nat.digitChar (c.toNat / 16)) ::
        some (Nat.digitChar (c.toNat % 16)) :: s) = .ok (c.toNat, s) := by
      have zero : Text.digitValue? '0' = some 0 := by decide
      simp only [takeCode, zero, digitValue?_digitChar (show c.toNat / 16 < 16 by omega),
        digitValue?_digitChar (show c.toNat % 16 < 16 by omega)]
      congr 2
      omega
    have low : (decide (0xDC00 ≤ c.toNat) && decide (c.toNat < 0xE000)) = false := by
      simp; omega
    have high : (decide (0xD800 ≤ c.toNat) && decide (c.toNat < 0xDC00)) = false := by
      simp; omega
    simp [takeString, takeEscape, code, low, high, Char.ofNat_toNat]
  · rename_i quote backslash _ _ _ _ _ printable
    simp only [List.map_cons, List.map_nil, List.singleton_append]
    rw [takeString]
    · simp [printable]
    all_goals simp_all

theorem takeString_flatMap : ∀ (cs : List Char) {fuel : Nat} (rest : List Glyph),
    cs.length < fuel →
    takeString false fuel ((cs.flatMap writeChar).map some ++ some '"' :: rest) =
      .ok (cs, rest) := by
  intro cs
  induction cs with
  | nil =>
    intro fuel rest enough
    obtain ⟨fuel, rfl⟩ := Nat.exists_eq_add_of_lt enough
    simp [takeString]
  | cons c cs ih =>
    intro fuel rest enough
    cases fuel with
    | zero => simp at enough
    | succ fuel =>
      rw [List.flatMap_cons, List.map_append, List.append_assoc, takeString_writeChar,
        ih rest (by simpa using enough)]
      rfl

/-- No character is written with less than one. -/
theorem length_le_length_flatMap (cs : List Char) : cs.length ≤ (cs.flatMap writeChar).length := by
  induction cs with
  | nil => simp
  | cons c cs ih =>
    have one : 1 ≤ (writeChar c).length := by
      unfold writeChar
      repeat' split
      all_goals simp
    simp only [List.flatMap_cons, List.length_append, List.length_cons]
    omega

theorem readString_flatMap (cs : List Char) {fuel : Nat} (rest : List Glyph)
    (enough : cs.length < fuel) :
    readString fuel ((cs.flatMap writeChar).map some ++ some '"' :: rest) =
      .ok (.ok cs, rest) := by
  rw [readString, takeString_flatMap cs rest enough]

/-! ## Values -/

theorem skipSpaces_cons {c : Char} {s : List Glyph} (h : isSpace c = false) :
    skipSpaces (some c :: s) = some c :: s := by
  simp [skipSpaces, h]

/-- An integer is written with a digit or a minus in front. -/
theorem exists_toString_cons (i : Int) :
    ∃ c cs, (toString i).toList = c :: cs ∧ (c.isDigit = true ∨ c = '-') := by
  cases i with
  | ofNat n =>
    rw [toList_toString_natCast]
    have some : Nat.toDigits 10 n ≠ [] := Nat.toDigits_ne_nil
    obtain ⟨c, cs, digits⟩ := List.exists_cons_of_ne_nil some
    exact ⟨c, cs, digits, .inl (Nat.isDigit_of_mem_toDigits (by decide) (by decide)
      (digits ▸ List.mem_cons_self))⟩
  | negSucc n =>
    rw [toList_toString_negSucc]
    exact ⟨_, _, rfl, .inr rfl⟩

theorem ne_of_begins {c d : Char} (begins : c.isDigit = true ∨ c = '-')
    (other : d.isDigit = false ∧ d ≠ '-') : c ≠ d := by
  rintro rfl
  rcases begins with digit | rfl
  · rw [other.1] at digit
    cases digit
  · exact other.2 rfl

theorem isSpace_of_begins {c : Char} (begins : c.isDigit = true ∨ c = '-') : isSpace c = false := by
  rw [Bool.eq_false_iff]
  intro space
  simp only [isSpace, Bool.or_eq_true, beq_iff_eq] at space
  rcases space with ((rfl | rfl) | rfl) | rfl
  all_goals exact ne_of_begins begins (by decide) rfl

namespace Value

/-- Induction on a value, with the hypothesis for all items and members. -/
@[elab_as_elim]
theorem induct {P : Value → Prop} (null : P .null) (bool : ∀ b, P (.bool b))
    (number : ∀ n, P (.number n)) (text : ∀ s, P (.text s))
    (list : ∀ items, (∀ v ∈ items, P v) → P (.list items))
    (object : ∀ members, (∀ m ∈ members, P m.2) → P (.object members)) (value : Value) :
    P value := by
  refine Value.rec (motive_1 := P) (motive_2 := fun items => ∀ v ∈ items, P v)
    (motive_3 := fun members => ∀ m ∈ members, P m.2) (motive_4 := fun m => P m.2)
    null bool number text list object ?_ ?_ ?_ ?_ ?_ value
  · simp
  · intro v items hv hitems
    exact List.forall_mem_cons.mpr ⟨hv, hitems⟩
  · simp
  · intro m members hm hmembers
    exact List.forall_mem_cons.mpr ⟨hm, hmembers⟩
  · intro name v hv
    exact hv

mutual

/-- The tree that the text of a value is. -/
def asTree : Value → Tree
  | null => .null
  | bool b => .bool b
  | number (.int i) => .number (toString i).toList
  | number (.float _) => .null
  | text s => .text (.ok s.toList)
  | list items => .list (asTrees items) .closed
  | object members => .object (asMembers members) .closed

def asTrees : List Value → List Tree
  | [] => []
  | item :: rest => item.asTree :: asTrees rest

def asMembers : List (String × Value) → List (Except Fault (List Char) × Tree)
  | [] => []
  | (name, value) :: rest => (.ok name.toList, value.asTree) :: asMembers rest

end

theorem write_text (s : String) : (text s).write = writeString s := rfl

theorem write_list (items : List Value) :
    (list items).write = ['['] ++ writeItems items ++ [']'] := rfl

theorem write_object (members : List (String × Value)) :
    (object members).write = ['\x7b'] ++ writeMembers members ++ ['\x7d'] := rfl

theorem writeItems_single (item : Value) : writeItems [item] = item.write := rfl

/-- Only what comes after the first item begins with a comma. -/
theorem writeItems_cons (item next : Value) (more : List Value) :
    writeItems (item :: next :: more) = item.write ++ ',' :: writeItems (next :: more) :=
  List.append_assoc ..

theorem writeMembers_single (name : String) (value : Value) :
    writeMembers [(name, value)] = writeString name ++ [':'] ++ value.write := rfl

theorem writeMembers_cons (member next : String × Value) (more : List (String × Value)) :
    writeMembers (member :: next :: more) =
      writeMembers [member] ++ ',' :: writeMembers (next :: more) :=
  List.append_assoc ..

/-- What a value is written as begins with no space and no bracket that closes. -/
theorem exists_write_cons (v : Value) :
    ∃ c cs, v.write = c :: cs ∧ isSpace c = false ∧ c ≠ ']' := by
  cases v with
  | bool b =>
    cases b with
    | true => exact ⟨_, _, rfl, by decide, by decide⟩
    | false => exact ⟨_, _, rfl, by decide, by decide⟩
  | number n =>
    cases n with
    | int i =>
      obtain ⟨c, cs, h, begins⟩ := exists_toString_cons i
      exact ⟨c, cs, h, isSpace_of_begins begins, ne_of_begins begins (by decide)⟩
    | float x => exact ⟨_, _, rfl, by decide, by decide⟩
  | _ => exact ⟨_, _, rfl, by decide, by decide⟩

theorem length_write_pos (v : Value) : 0 < v.write.length := by
  obtain ⟨c, cs, h, _⟩ := v.exists_write_cons
  rw [h]
  simp

/-- What begins with no bracket is a scalar. -/
theorem takeValue_scalar {c : Char} {fuel : Nat} {s : List Glyph} (unspaced : isSpace c = false)
    (noList : c ≠ '[') (noObject : c ≠ '\x7b') :
    takeValue (fuel + 1) (some c :: s) = scalarValue fuel (some c :: s) := by
  unfold takeValue
  rw [skipSpaces_cons unspaced]
  dsimp only
  split
  · rename_i h
    cases h
    exact absurd rfl noList
  · rename_i h
    cases h
    exact absurd rfl noObject
  · rfl

/-- The text of the value is taken as its tree, whatever follows it that does not go
on with a number. -/
def ReadsBack (v : Value) : Prop :=
  ∀ (fuel : Nat) (rest : List Glyph), EndsNumber rest → 2 * v.write.length ≤ fuel →
    takeValue fuel (v.write.map some ++ rest) = (v.asTree, some rest)

theorem takeValue_number {i : Int} {fuel : Nat} {rest : List Glyph} (ends : EndsNumber rest) :
    takeValue (fuel + 1) ((toString i).toList.map some ++ rest) =
      (.number (toString i).toList, some rest) := by
  have taken : numberValue ((toString i).toList.map some ++ rest) =
      (.number (toString i).toList, some rest) := by
    rw [numberValue, takeNumber_append ends]
  obtain ⟨c, cs, front, begins⟩ := exists_toString_cons i
  rw [front, List.map_cons, List.cons_append] at taken ⊢
  have other {d : Char} (hd : d.isDigit = false ∧ d ≠ '-') : c ≠ d := ne_of_begins begins hd
  have scalar : scalarValue fuel (some c :: (cs.map some ++ rest)) =
      numberValue (some c :: (cs.map some ++ rest)) := by
    unfold scalarValue
    split
    all_goals rename_i h
    all_goals cases h
    · exact absurd rfl (other (by decide))
    · exact absurd rfl (other (by decide))
    · exact absurd rfl (other (by decide))
    · exact absurd rfl (other (by decide))
    · rw [if_pos]
      rcases begins with digit | rfl
      · simp [digit]
      · rfl
  rw [takeValue_scalar (isSpace_of_begins begins) (other (by decide)) (other (by decide)), scalar,
    taken]

theorem readsBack_text (s : String) : ReadsBack (.text s) := by
  intro fuel rest _ enough
  cases fuel with
  | zero => simp [write_text, writeString] at enough
  | succ fuel =>
    have room : s.toList.length < fuel := by
      have := length_le_length_flatMap s.toList
      simp only [write_text, writeString, List.length_append, List.length_singleton] at enough
      omega
    have text : (write (.text s)).map some ++ rest =
        some '"' :: ((s.toList.flatMap writeChar).map some ++ some '"' :: rest) := by
      simp [write_text, writeString]
    rw [text, takeValue_scalar (by decide) (by decide) (by decide)]
    simp only [scalarValue, stringValue, readString_flatMap s.toList rest room, asTree]

theorem endsNumber_mark {c : Char} {s : List Glyph} (mark : c ∈ [',', ']', '\x7d']) :
    EndsNumber (some c :: s) := by
  rintro g ⟨⟩
  simp only [List.mem_cons, List.not_mem_nil, or_false] at mark
  rcases mark with rfl | rfl | rfl <;> exact ⟨rfl, by decide, by decide, by decide⟩

/-- An item is taken as it is written, and the mark after it decides what follows. -/
theorem takeItems_item {item : Value} {fuel : Nat} {mark : Char} {rest : List Glyph}
    (reads : ReadsBack item) (marks : mark = ',' ∨ mark = ']')
    (enough : 2 * item.write.length ≤ fuel) :
    takeItems (fuel + 1) (item.write.map some ++ some mark :: rest) =
      if mark = ',' then
        (item.asTree :: (takeItems fuel rest).1, (takeItems fuel rest).2)
      else ([item.asTree], .closed, some rest) := by
  have taken := reads fuel (some mark :: rest)
    (endsNumber_mark (by rcases marks with rfl | rfl <;> decide)) enough
  rw [takeItems, taken]
  rcases marks with rfl | rfl
  · simp only [skipSpaces_cons (show isSpace ',' = false by decide), if_pos]
  · simp only [skipSpaces_cons (show isSpace ']' = false by decide)]
    rfl

theorem takeItems_write (more : List Value) : ∀ (item : Value),
    (∀ v ∈ item :: more, ReadsBack v) → ∀ (fuel : Nat) (rest : List Glyph),
    2 * (writeItems (item :: more)).length + 1 ≤ fuel →
    takeItems fuel ((writeItems (item :: more)).map some ++ some ']' :: rest) =
      (asTrees (item :: more), .closed, some rest) := by
  induction more with
  | nil =>
    intro item each fuel rest enough
    cases fuel with
    | zero => simp at enough
    | succ fuel =>
      rw [writeItems_single] at enough ⊢
      rw [takeItems_item (each item List.mem_cons_self) (.inr rfl) (by omega)]
      rfl
  | cons next more ih =>
    intro item each fuel rest enough
    rw [writeItems_cons, List.length_append, List.length_cons] at enough
    cases fuel with
    | zero => omega
    | succ fuel =>
      have others := ih next (fun v hv => each v (List.mem_cons_of_mem item hv)) fuel rest
        (by omega)
      rw [writeItems_cons, List.map_append, List.map_cons, List.append_assoc, List.cons_append,
        takeItems_item (each item List.mem_cons_self) (.inl rfl) (by omega), others]
      rfl

theorem readsBack_list {items : List Value} (each : ∀ v ∈ items, ReadsBack v) :
    ReadsBack (.list items) := by
  intro fuel rest _ enough
  rw [write_list] at enough
  cases fuel with
  | zero => simp at enough
  | succ fuel =>
    cases items with
    | nil => rfl
    | cons item more =>
      have text : (write (.list (item :: more))).map some ++ rest =
          some '[' :: ((writeItems (item :: more)).map some ++ some ']' :: rest) := by
        simp [write_list]
      have items := takeItems_write more item each fuel rest
        (by simp only [List.length_append, List.length_singleton] at enough; omega)
      -- The first item begins with neither a space nor the bracket that closes the list.
      obtain ⟨c, cs, front, unspaced, inside⟩ := item.exists_write_cons
      obtain ⟨after, begins⟩ : ∃ after, (writeItems (item :: more)).map some ++ some ']' :: rest =
          some c :: after := by
        cases more with
        | nil => exact ⟨_, by rw [writeItems_single, front]; rfl⟩
        | cons next more => exact ⟨_, by rw [writeItems_cons, front]; rfl⟩
      rw [begins] at items
      rw [text, begins, takeValue, skipSpaces_cons (by decide)]
      simp only [skipSpaces_cons unspaced]
      split
      · rename_i h
        cases h
        exact absurd rfl inside
      · rename_i h
        cases h
      · rw [items]
        rfl

/-- A member is taken as it is written, and the mark after its value decides what follows. -/
theorem takeMembers_member {name : String} {value : Value} {fuel : Nat} {afterComma : Bool}
    {mark : Char} {rest : List Glyph} (reads : ReadsBack value) (marks : mark = ',' ∨ mark = '\x7d')
    (enough : 2 * (writeMembers [(name, value)]).length ≤ fuel) :
    takeMembers (fuel + 1) afterComma
        ((writeMembers [(name, value)]).map some ++ some mark :: rest) =
      if mark = ',' then
        ((.ok name.toList, value.asTree) :: (takeMembers fuel true rest).1,
          (takeMembers fuel true rest).2)
      else ([(.ok name.toList, value.asTree)], .closed, some rest) := by
  have text : (writeMembers [(name, value)]).map some ++ some mark :: rest =
      some '"' :: ((name.toList.flatMap writeChar).map some ++ some '"' ::
        some ':' :: (value.write.map some ++ some mark :: rest)) := by
    simp [writeMembers_single, writeString]
  have short := length_le_length_flatMap name.toList
  simp only [writeMembers_single, writeString, List.length_append, List.length_singleton] at enough
  have enoughName : name.toList.length < fuel := by omega
  have named := readString_flatMap name.toList
    (some ':' :: (value.write.map some ++ some mark :: rest)) enoughName
  have valued := reads fuel (some mark :: rest)
    (endsNumber_mark (by rcases marks with rfl | rfl <;> decide)) (by omega)
  rw [text, takeMembers, skipSpaces_cons (by decide)]
  simp only [named, skipSpaces_cons (show isSpace ':' = false by decide), valued]
  rcases marks with rfl | rfl
  · simp only [skipSpaces_cons (show isSpace ',' = false by decide), if_pos]
  · simp only [skipSpaces_cons (show isSpace '\x7d' = false by decide)]
    rfl

theorem takeMembers_write (more : List (String × Value)) : ∀ (member : String × Value),
    (∀ m ∈ member :: more, ReadsBack m.2) → ∀ (fuel : Nat) (afterComma : Bool) (rest : List Glyph),
    2 * (writeMembers (member :: more)).length + 1 ≤ fuel →
    takeMembers fuel afterComma ((writeMembers (member :: more)).map some ++ some '\x7d' :: rest) =
      (asMembers (member :: more), .closed, some rest) := by
  induction more with
  | nil =>
    rintro ⟨name, value⟩ each fuel afterComma rest enough
    cases fuel with
    | zero => simp at enough
    | succ fuel =>
      have reads : ReadsBack value := each (name, value) List.mem_cons_self
      rw [takeMembers_member reads (.inr rfl) (by omega)]
      rfl
  | cons next more ih =>
    rintro ⟨name, value⟩ each fuel afterComma rest enough
    rw [writeMembers_cons, List.length_append, List.length_cons] at enough
    cases fuel with
    | zero => omega
    | succ fuel =>
      have reads : ReadsBack value := each (name, value) List.mem_cons_self
      have others := ih next (fun m hm => each m (List.mem_cons_of_mem _ hm)) fuel true rest
        (by omega)
      rw [writeMembers_cons, List.map_append, List.map_cons, List.append_assoc, List.cons_append,
        takeMembers_member reads (.inl rfl) (by omega), others]
      rfl

theorem readsBack_object {members : List (String × Value)} (each : ∀ m ∈ members, ReadsBack m.2) :
    ReadsBack (.object members) := by
  intro fuel rest _ enough
  rw [write_object] at enough
  cases fuel with
  | zero => simp at enough
  | succ fuel =>
    cases members with
    | nil => rfl
    | cons member more =>
      have text : (write (.object (member :: more))).map some ++ rest =
          some '\x7b' :: ((writeMembers (member :: more)).map some ++ some '\x7d' :: rest) := by
        simp [write_object]
      have members := takeMembers_write more member each fuel false rest
        (by simp only [List.length_append, List.length_singleton] at enough; omega)
      obtain ⟨after, begins⟩ : ∃ after, (writeMembers (member :: more)).map some ++
          some '\x7d' :: rest = some '"' :: after := by
        cases more with
        | nil => exact ⟨_, rfl⟩
        | cons next more => exact ⟨_, rfl⟩
      rw [begins] at members
      rw [text, begins, takeValue, skipSpaces_cons (by decide)]
      simp only [skipSpaces_cons (show isSpace '"' = false by decide)]
      split
      · rename_i h
        cases h
      · rw [members]
        rfl

theorem readsBack (v : Value) : ReadsBack v := by
  induction v using Value.induct with
  | null =>
    intro fuel rest _ enough
    cases fuel with
    | zero => exact absurd (length_write_pos .null) (by omega)
    | succ fuel => rfl
  | bool b =>
    intro fuel rest _ enough
    cases fuel with
    | zero => exact absurd (length_write_pos (.bool b)) (by omega)
    | succ fuel => cases b <;> rfl
  | number n =>
    intro fuel rest ends enough
    cases fuel with
    | zero => exact absurd (length_write_pos (.number n)) (by omega)
    | succ fuel =>
      cases n with
      | int i => exact takeValue_number ends
      | float x => rfl
  | text s => exact readsBack_text s
  | list items each => exact readsBack_list each
  | object members each => exact readsBack_object each

/-- The text of a value is its tree, with nothing after it. -/
theorem ofText_toText (v : Value) : Document.ofText v.toText = ⟨v.asTree, false⟩ := by
  have whole := v.readsBack (2 * v.write.length + 2) []
    (by simp [EndsNumber]) (by omega)
  rw [List.append_nil] at whole
  rw [Document.ofText, Document.ofGlyphs, toText, String.toList_ofList, List.length_map, whole]
  rfl

end Value

end TelemetrySidecar.Json
