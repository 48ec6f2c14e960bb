import Mathlib
import TelemetrySidecar.Configuration.Reference
import TelemetrySidecar.Proofs.Text.Cut

/-
  How references are read

  A text is a row of tokens, read from the left: two dollars, a name in braces,
  a bare name, a dollar that is nothing more, any other character. `Begins` says
  which token a text begins with and keeps the five apart.

  What is proved:
    1. `expand_reads`: every text is read in one way only, and expansion puts
       for each token what it stands for. The tokens are those of the text
       alone, so what is put in for a name is not read again.
    2. `expand_escape`: text whose dollars are doubled is expanded to the text
       it was, whatever follows it and whatever the variables are.
-/

namespace TelemetrySidecar.Reference

/-! ## Tokens -/

/-- A letter or a digit of ASCII, or an underscore. -/
def InName (c : Char) : Prop :=
  ('a' ≤ c ∧ c ≤ 'z') ∨ ('A' ≤ c ∧ c ≤ 'Z') ∨ ('0' ≤ c ∧ c ≤ '9') ∨ c = '_'

theorem isNameChar_iff {c : Char} : isNameChar c = true ↔ InName c := by
  simp only [isNameChar, InName, Char.isAlphanum, Char.isAlpha, Char.isUpper, Char.isLower,
    Char.isDigit, Char.le_def, Bool.or_eq_true, Bool.and_eq_true, decide_eq_true_eq, beq_iff_eq]
  constructor
  · rintro (((h | h) | h) | h)
    · exact .inr (.inl h)
    · exact .inl h
    · exact .inr (.inr (.inl h))
    · exact .inr (.inr (.inr h))
  · rintro (h | h | h | h)
    · exact .inl (.inl (.inr h))
    · exact .inl (.inl (.inl h))
    · exact .inl (.inr h)
    · exact .inr h

/-- What is read at one place of a text: two dollars, a name in braces, a bare name, a
dollar that is nothing more, or any other character. -/
inductive Token where
  | escape
  | braced (name : List Char)
  | bare (name : List Char)
  | dollar
  | plain (c : Char)

/-- The token a text begins with, and the text after it. -/
inductive Begins : List Char → Token → List Char → Prop where
  | escape (rest : List Char) : Begins ('$' :: '$' :: rest) .escape rest
  | braced {s name rest : List Char} (text : s = name ++ '}' :: rest) (ends : '}' ∉ name) :
      Begins ('$' :: '{' :: s) (.braced name) rest
  | bare {s name rest : List Char} (text : s = name ++ rest) (nonempty : name ≠ [])
      (inside : ∀ c ∈ name, InName c) (longest : ∀ c, rest.head? = some c → ¬ InName c) :
      Begins ('$' :: s) (.bare name) rest
  | dollar {rest : List Char} (single : rest.head? ≠ some '$')
      (unclosed : rest.head? = some '{' → '}' ∉ rest)
      (unnamed : ∀ c, rest.head? = some c → ¬ InName c) : Begins ('$' :: rest) .dollar rest
  | plain {c : Char} (rest : List Char) (other : c ≠ '$') : Begins (c :: rest) (.plain c) rest

/-- The tokens of a text, read from the left. -/
inductive Reads : List Char → List Token → Prop where
  | nil : Reads [] []
  | cons {s rest : List Char} {token : Token} {tokens : List Token} (first : Begins s token rest)
      (more : Reads rest tokens) : Reads s (token :: tokens)

/-- The variable that a name in braces means: the name without one `env:` before it. -/
def variableOf (name : List Char) : List Char :=
  if "env:".toList <+: name then name.drop "env:".toList.length else name

/-- The text that a token stands for. -/
def Token.given (lookup : List Char → Option (List Char)) : Token → List Char
  | escape | dollar => ['$']
  | braced name => (lookup (variableOf name)).getD []
  | bare name => (lookup name).getD []
  | plain c => [c]

/-! ## Every text has its tokens -/

theorem not_inName_dollar : ¬ InName '$' := by
  rw [← isNameChar_iff]
  decide

theorem not_inName_brace : ¬ InName '{' := by
  rw [← isNameChar_iff]
  decide

/-- The name characters at the beginning of a text are a longest name. -/
theorem begins_bare {c : Char} (h : InName c) (s : List Char) :
    ∃ name rest, Begins ('$' :: c :: s) (.bare name) rest := by
  have hinside : ∀ d ∈ (c :: s).takeWhile isNameChar, InName d := by
    intro d hd
    have hall := List.all_takeWhile (l := c :: s) (p := isNameChar)
    exact isNameChar_iff.mp (List.all_eq_true.mp hall d hd)
  have hsome : (c :: s).takeWhile isNameChar ≠ [] := by
    simp [isNameChar_iff.mpr h]
  have hlongest : ∀ d, ((c :: s).dropWhile isNameChar).head? = some d → ¬ InName d := by
    intro d hd hname
    have hnot : isNameChar d = false := by
      simpa [hd] using List.head?_dropWhile_not isNameChar (c :: s)
    rw [isNameChar_iff.mpr hname] at hnot
    cases hnot
  exact ⟨_, _, .bare List.takeWhile_append_dropWhile.symm hsome hinside hlongest⟩

theorem exists_begins (c : Char) (s : List Char) : ∃ token rest, Begins (c :: s) token rest := by
  by_cases hc : c = '$'
  · subst hc
    cases s with
    | nil => exact ⟨_, _, .dollar (by simp) (by simp) (by simp)⟩
    | cons d s =>
      by_cases hname : InName d
      · obtain ⟨name, rest, h⟩ := begins_bare hname s
        exact ⟨_, _, h⟩
      · have hunnamed : ∀ c, (d :: s).head? = some c → ¬ InName c := by
          rintro c ⟨⟩
          exact hname
        by_cases hd : d = '$'
        · subst hd
          exact ⟨_, _, .escape s⟩
        · have hsingle : (d :: s).head? ≠ some '$' := by simpa using hd
          by_cases hclosed : d = '{' ∧ '}' ∈ s
          · obtain ⟨rfl, hmem⟩ := hclosed
            obtain ⟨name, rest, htext, hends⟩ := List.eq_append_cons_of_mem hmem
            exact ⟨_, _, .braced htext hends⟩
          · refine ⟨_, _, .dollar hsingle (fun hbrace hmem => hclosed ?_) hunnamed⟩
            obtain rfl : d = '{' := by simpa using hbrace
            exact ⟨rfl, by simpa using hmem⟩
  · exact ⟨_, _, .plain s hc⟩

theorem Begins.shorter {s rest : List Char} {token : Token} (h : Begins s token rest) :
    rest.length < s.length := by
  cases h with
  | braced text | bare text =>
    subst text
    simp only [List.length_cons, List.length_append]
    omega
  | escape =>
    simp only [List.length_cons]
    omega
  | dollar | plain => exact Nat.lt_succ_self _

theorem exists_reads (s : List Char) : ∃ tokens, Reads s tokens := by
  match s with
  | [] => exact ⟨[], .nil⟩
  | c :: s =>
    obtain ⟨token, rest, hfirst⟩ := exists_begins c s
    obtain ⟨tokens, hmore⟩ := exists_reads rest
    exact ⟨token :: tokens, .cons hfirst hmore⟩
termination_by s.length
decreasing_by exact hfirst.shorter

/-! ## No text has others -/

/-- A longest name is what the text begins with of name characters. -/
theorem takeWhile_name {name rest : List Char} (inside : ∀ c ∈ name, InName c)
    (longest : ∀ c, rest.head? = some c → ¬ InName c) :
    (name ++ rest).takeWhile isNameChar = name := by
  rw [List.takeWhile_append_of_pos fun c hc => isNameChar_iff.mpr (inside c hc)]
  cases rest with
  | nil => simp
  | cons d rest =>
    have hd : isNameChar d = false := by
      rw [Bool.eq_false_iff, ne_eq, isNameChar_iff]
      exact longest d rfl
    simp [hd]

theorem InName.ne {c d : Char} (h : InName c) (hd : ¬ InName d) : c ≠ d := by
  rintro rfl
  exact hd h

/-- A bare name leaves no other choice for what follows the dollar. -/
theorem head?_name {s name rest : List Char} (text : s = name ++ rest) (nonempty : name ≠ [])
    (inside : ∀ c ∈ name, InName c) : ∃ c, s.head? = some c ∧ InName c := by
  cases name with
  | nil => exact absurd rfl nonempty
  | cons c name =>
    subst text
    exact ⟨c, rfl, inside c List.mem_cons_self⟩

theorem Begins.unique {s rest rest' : List Char} {token token' : Token}
    (h : Begins s token rest) (h' : Begins s token' rest') : token = token' ∧ rest = rest' := by
  cases h with
  | escape rest =>
    cases h' with
    | escape => exact ⟨rfl, rfl⟩
    | bare text nonempty inside =>
      obtain ⟨_, ⟨⟩, h⟩ := head?_name text nonempty inside
      exact absurd h not_inName_dollar
    | dollar single => exact absurd rfl single
    | plain _ other => exact absurd rfl other
  | @braced s name rest text ends =>
    cases h' with
    | @braced _ name' rest' text' ends' =>
      have hcut := Text.cut_char_append ends rest
      rw [← text, text', Text.cut_char_append ends'] at hcut
      cases hcut
      exact ⟨rfl, rfl⟩
    | bare text' nonempty inside =>
      obtain ⟨_, ⟨⟩, h⟩ := head?_name text' nonempty inside
      exact absurd h not_inName_brace
    | dollar _ unclosed => exact absurd (by simp [text]) (unclosed rfl)
    | plain _ other => exact absurd rfl other
  | @bare s name rest text nonempty inside longest =>
    obtain ⟨c, hc, hname⟩ := head?_name text nonempty inside
    cases h' with
    | escape =>
      cases hc
      exact absurd hname not_inName_dollar
    | braced =>
      cases hc
      exact absurd hname not_inName_brace
    | @bare _ name' rest' text' _ inside' longest' =>
      have hname := takeWhile_name inside longest
      rw [← text, text', takeWhile_name inside' longest'] at hname
      subst hname
      rw [text'] at text
      exact ⟨rfl, (List.append_cancel_left text).symm⟩
    | dollar _ _ unnamed => exact absurd hname (unnamed c hc)
    | plain _ other => exact absurd rfl other
  | dollar single unclosed unnamed =>
    cases h' with
    | escape => exact absurd rfl single
    | braced text => exact absurd (by simp [text]) (unclosed rfl)
    | bare text nonempty inside =>
      obtain ⟨c, hc, hname⟩ := head?_name text nonempty inside
      exact absurd hname (unnamed c hc)
    | dollar => exact ⟨rfl, rfl⟩
    | plain _ other => exact absurd rfl other
  | plain rest other =>
    cases h' with
    | plain => exact ⟨rfl, rfl⟩
    | _ => exact absurd rfl other

theorem Reads.unique {s : List Char} {tokens tokens' : List Token} (h : Reads s tokens)
    (h' : Reads s tokens') : tokens = tokens' := by
  induction h generalizing tokens' with
  | nil =>
    cases h' with
    | nil => rfl
    | cons first => cases first
  | cons first _ ih =>
    cases h' with
    | nil => cases first
    | cons first' more' =>
      obtain ⟨rfl, rfl⟩ := first.unique first'
      rw [ih more']

/-! ## Expansion reads the tokens -/

theorem variableOf_eq (name : List Char) : bareName name = variableOf name := by
  unfold bareName variableOf
  split
  · rename_i h
    obtain ⟨rest, rfl⟩ := h
    rw [Text.dropLead_eq_some.mpr rfl, Option.getD_some, List.drop_left]
  · rename_i h
    cases hrest : Text.dropLead "env:".toList name with
    | none => rfl
    | some rest => exact absurd ⟨rest, (Text.dropLead_eq_some.mp hrest).symm⟩ h

variable (lookup : List Char → Option (List Char))

/-- Characters that belong to a reference already read give nothing. -/
theorem expandFrom_append (front s : List Char) :
    expandFrom lookup front.length (front ++ s) = expand lookup s := by
  induction front with
  | nil => rfl
  | cons c front ih =>
    rw [← ih]
    rfl

theorem expand_dollar {s rest : List Char} (taken : List Char) (text : s = taken ++ rest)
    {what : Meaning} (h : meaning s = (what, taken.length)) :
    expand lookup ('$' :: s) = what.text lookup ++ expand lookup rest := by
  rw [expand, expandFrom, if_pos rfl, h]
  dsimp only
  rw [text, expandFrom_append]

theorem expand_plain {c : Char} (h : c ≠ '$') (s : List Char) :
    expand lookup (c :: s) = c :: expand lookup s := by
  rw [expand, expandFrom, if_neg h]
  rfl

/-- Where neither a dollar nor a brace follows, the name characters tell. -/
theorem meaning_of_head {s : List Char} (h : ∀ c, s.head? = some c → c ≠ '$' ∧ c ≠ '{') :
    (s.takeWhile isNameChar = [] → meaning s = (.dollar, 0)) ∧
    (s.takeWhile isNameChar ≠ [] →
      meaning s = (.named (s.takeWhile isNameChar), (s.takeWhile isNameChar).length)) := by
  rw [meaning.eq_def]
  split
  · exact absurd rfl (h _ rfl).1
  · exact absurd rfl (h _ rfl).2
  · split
    · rename_i hnone
      exact ⟨fun _ => rfl, fun hsome => absurd hnone hsome⟩
    · rename_i hsome
      exact ⟨fun hnone => absurd hnone hsome, fun _ => rfl⟩

theorem expand_of_begins {s rest : List Char} {token : Token} (h : Begins s token rest) :
    expand lookup s = token.given lookup ++ expand lookup rest := by
  cases h with
  | escape rest => exact expand_dollar lookup ['$'] rfl rfl
  | @braced s name rest text ends =>
    have hmeaning : meaning ('{' :: s) =
        (.named (variableOf name), ('{' :: (name ++ ['}'])).length) := by
      rw [meaning, text, Text.cut_char_append ends, ← variableOf_eq]
      simp
    have htext : '{' :: s = '{' :: (name ++ ['}']) ++ rest := by simp [text]
    exact expand_dollar lookup _ htext hmeaning
  | @bare s name rest text nonempty inside longest =>
    have htake : s.takeWhile isNameChar = name := text ▸ takeWhile_name inside longest
    have hhead : ∀ c, s.head? = some c → c ≠ '$' ∧ c ≠ '{' := by
      intro c hc
      obtain ⟨d, hd, hname⟩ := head?_name text nonempty inside
      rw [hc] at hd
      cases hd
      exact ⟨hname.ne not_inName_dollar, hname.ne not_inName_brace⟩
    have hmeaning := (meaning_of_head hhead).2 (by rwa [htake])
    rw [htake] at hmeaning
    exact expand_dollar lookup name text hmeaning
  | dollar single unclosed unnamed =>
    have hmeaning : meaning rest = (.dollar, 0) := by
      by_cases hbrace : rest.head? = some '{'
      · obtain ⟨s, rfl⟩ := List.head?_eq_some_iff.mp hbrace
        have hnone : Text.cut ['}'] s = none :=
          Text.cut_char_eq_none_iff.mpr fun h => unclosed rfl (List.mem_cons_of_mem _ h)
        rw [meaning, hnone]
      · have hhead : ∀ c, rest.head? = some c → c ≠ '$' ∧ c ≠ '{' := by
          intro c hc
          exact ⟨fun h => single (h ▸ hc), fun h => hbrace (h ▸ hc)⟩
        have htake : ([] ++ rest).takeWhile isNameChar = [] := takeWhile_name (by simp) unnamed
        exact (meaning_of_head hhead).1 htake
    exact expand_dollar lookup [] rfl hmeaning
  | plain rest other => exact expand_plain lookup other rest

theorem expand_of_reads {s : List Char} {tokens : List Token} (h : Reads s tokens) :
    expand lookup s = tokens.flatMap (·.given lookup) := by
  induction h with
  | nil => rfl
  | cons first _ ih => rw [expand_of_begins lookup first, ih, List.flatMap_cons]

/-- Every text is read as tokens in one way, whatever the variables are, and expanded
to what the tokens stand for. -/
theorem expand_reads (s : List Char) :
    ∃ tokens, Reads s tokens ∧ (∀ other, Reads s other → other = tokens) ∧
      ∀ lookup, expand lookup s = tokens.flatMap (·.given lookup) := by
  obtain ⟨tokens, h⟩ := exists_reads s
  exact ⟨tokens, h, fun other h' => h'.unique h, fun lookup => expand_of_reads lookup h⟩

/-! ## Text that is to be taken as it is -/

/-- The text with every dollar doubled. -/
def escape (s : List Char) : List Char := s.flatMap fun c => if c = '$' then ['$', '$'] else [c]

theorem expand_escape_append (s t : List Char) :
    expand lookup (escape s ++ t) = s ++ expand lookup t := by
  induction s with
  | nil => rfl
  | cons c s ih =>
    by_cases h : c = '$'
    · -- Both dollars are read as one token, so the next is not taken for a part of it.
      subst h
      calc expand lookup (escape ('$' :: s) ++ t)
          = expand lookup ('$' :: '$' :: (escape s ++ t)) := rfl
        _ = '$' :: expand lookup (escape s ++ t) := expand_of_begins lookup (.escape _)
        _ = '$' :: s ++ expand lookup t := by rw [ih, List.cons_append]
    · have hescape : escape (c :: s) ++ t = c :: (escape s ++ t) := by
        simp [escape, h]
      calc expand lookup (escape (c :: s) ++ t)
          = c :: expand lookup (escape s ++ t) := by rw [hescape, expand_plain lookup h]
        _ = c :: s ++ expand lookup t := by rw [ih, List.cons_append]

/-- Text with its dollars doubled is put in as it was, before any other text and
alone, and so is a string of a configuration. -/
theorem expand_escape (s t : List Char) :
    expand lookup (escape s ++ t) = s ++ expand lookup t ∧
    expand lookup (escape s) = s ∧
    (Node.text (String.ofList (escape s))).expand lookup = .text (String.ofList s) := by
  have halone : expand lookup (escape s) = s := by
    have h := expand_escape_append lookup s []
    rw [List.append_nil] at h
    rw [h]
    exact List.append_nil s
  refine ⟨expand_escape_append lookup s t, halone, ?_⟩
  rw [Node.expand, String.toList_ofList, halone]

end TelemetrySidecar.Reference
