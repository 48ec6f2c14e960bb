import TelemetrySidecar.Proofs.Configuration.Expansion
import TelemetrySidecar.Proofs.Configuration.Reference

/-
  What variables can change

  A text refers to a variable if one of the tokens it is read as does
  (`Mentions`), and what it is expanded to depends on no other variable
  (`expand_congr`). Three trees are aligned if they differ in nothing but
  strings that are reached through untagged mappings and sequences (`Aligned`).

  What is proved: `expand_keeps_structure`, a law of two runs. A tree and what
  two environments expand it to are aligned, so no variable changes a key, the
  length of a sequence, a tag, anything under a tag or a value that is no
  string. Where the two results hold different strings, the text in that place
  refers to a variable on which the environments differ.
-/

namespace TelemetrySidecar

namespace Reference

/-- The variable that a token refers to. -/
def Token.name? : Token → Option (List Char)
  | braced name => some (variableOf name)
  | bare name => some name
  | escape | dollar | plain _ => none

/-- A text refers to a variable. -/
def Mentions (s name : List Char) : Prop :=
  ∃ tokens, Reads s tokens ∧ ∃ token ∈ tokens, token.name? = some name

variable {lookup lookup' : List Char → Option (List Char)}

theorem Token.given_congr {token : Token}
    (h : ∀ name, token.name? = some name → lookup name = lookup' name) :
    token.given lookup = token.given lookup' := by
  cases token with
  | braced name =>
    have hname := h (variableOf name) rfl
    rw [given, given, hname]
  | bare name =>
    have hname := h name rfl
    rw [given, given, hname]
  | escape | dollar | plain => rfl

/-- A text is expanded alike where the variables it refers to are the same. -/
theorem expand_congr {s : List Char} (h : ∀ name, Mentions s name → lookup name = lookup' name) :
    expand lookup s = expand lookup' s := by
  obtain ⟨tokens, hreads⟩ := exists_reads s
  have hgiven : ∀ token ∈ tokens, token.given lookup = token.given lookup' := by
    intro token htoken
    apply Token.given_congr
    intro name hname
    exact h name ⟨tokens, hreads, token, htoken, hname⟩
  calc expand lookup s
      = tokens.flatMap (·.given lookup) := expand_of_reads lookup hreads
    _ = tokens.flatMap (·.given lookup') := List.flatMap_congr hgiven
    _ = expand lookup' s := (expand_of_reads lookup' hreads).symm

/-- A text refers to a variable on which the environments differ. -/
def DifferOn (env env' : Environment) (text : String) : Prop :=
  ∃ name, Mentions text.toList name ∧ env.lookup name ≠ env'.lookup name

theorem differOn_of_expand_ne {env env' : Environment} {text : String}
    (h : expand env.lookup text.toList ≠ expand env'.lookup text.toList) :
    DifferOn env env' text := by
  apply Classical.byContradiction
  intro hsame
  apply h
  apply expand_congr
  intro name hname
  apply Classical.byContradiction
  intro hne
  exact hsame ⟨name, hname, hne⟩

end Reference

/-- Three nodes that differ in nothing but strings reached through untagged
mappings and sequences: they have the same keys in the same order, as many
items, the same tags and what is under them, and the same other values. The
three strings in one place are related. -/
inductive Node.Aligned (R : String → String → String → Prop) : Node → Node → Node → Prop where
  | null : Aligned R .null .null .null
  | bool (b : Bool) : Aligned R (.bool b) (.bool b) (.bool b)
  | int (i : Int) : Aligned R (.int i) (.int i) (.int i)
  | float (x : Binary64) : Aligned R (.float x) (.float x) (.float x)
  | text {s t u : String} (strings : R s t u) : Aligned R (.text s) (.text t) (.text u)
  | seq {items as bs : List Node} (first : as.length = items.length)
      (second : bs.length = items.length)
      (each : ∀ (i : Nat) (n a b : Node), items[i]? = some n → as[i]? = some a → bs[i]? = some b →
        Aligned R n a b) : Aligned R (.seq items) (.seq as) (.seq bs)
  | map {entries as bs : Mapping} (first : as.map Prod.fst = entries.map Prod.fst)
      (second : bs.map Prod.fst = entries.map Prod.fst)
      (each : ∀ (i : Nat) (e a b : Node × Node), entries[i]? = some e → as[i]? = some a →
        bs[i]? = some b → Aligned R e.2 a.2 b.2) : Aligned R (.map entries) (.map as) (.map bs)
  | tagged (tag : String) (value : Node) :
      Aligned R (.tagged tag value) (.tagged tag value) (.tagged tag value)

namespace Node

theorem expandEntries_keys (lookup : List Char → Option (List Char)) (entries : Mapping) :
    (expandEntries lookup entries).map Prod.fst = entries.map Prod.fst := by
  rw [expandEntries_eq_map, List.map_map]
  rfl

/-- A node is aligned with its two expansions if its strings are related to theirs. -/
theorem aligned_expand {R : String → String → String → Prop}
    {lookup lookup' : List Char → Option (List Char)}
    (hR : ∀ s : String, R s (.ofList (Reference.expand lookup s.toList))
      (.ofList (Reference.expand lookup' s.toList))) (n : Node) :
    n.Aligned R (n.expand lookup) (n.expand lookup') := by
  induction n using induct with
  | null => exact .null
  | bool b => exact .bool b
  | int i => exact .int i
  | float x => exact .float x
  | text s => exact .text (hR s)
  | seq items ih =>
    rw [expand, expand, expandItems_eq_map, expandItems_eq_map]
    refine .seq (List.length_map _) (List.length_map _) ?_
    intro i n a b hn ha hb
    rw [List.getElem?_map, hn] at ha hb
    cases ha
    cases hb
    exact ih n (List.mem_of_getElem? hn)
  | map entries _ ih =>
    refine .map (expandEntries_keys lookup entries) (expandEntries_keys lookup' entries) ?_
    intro i e a b he ha hb
    rw [expandEntries_eq_map, List.getElem?_map, he] at ha hb
    cases ha
    cases hb
    exact ih e (List.mem_of_getElem? he)
  | tagged tag value => exact .tagged tag value

end Node

/-- Whatever the variables are, a configuration keeps its structure when they are
put in; and two environments give different strings in one place only if the
text there refers to a variable on which they differ. -/
theorem Configuration.expand_keeps_structure (c : Configuration) (env env' : Environment) :
    (Node.map c.root).Aligned
      (fun text given given' => given ≠ given' → Reference.DifferOn env env' text)
      (.map (c.expand env).root) (.map (c.expand env').root) := by
  apply Node.aligned_expand
  intro s hne
  apply Reference.differOn_of_expand_ne
  intro hsame
  exact hne (congrArg String.ofList hsame)

end TelemetrySidecar
