/-
  Key paths

  A path names the keys from the root of a configuration to a value, joined by
  `::`. Reading a path takes the delimiters from the left, so that of three
  colons in a row the third belongs to the key after them.
-/

namespace TelemetrySidecar.KeyPath

/-- What stands between two keys of a path. -/
def delimiter : String := "::"

/-- The keys of a path, as characters; there is always at least one. -/
def keys : List Char → List (List Char)
  | ':' :: ':' :: s => [] :: keys s
  | [] => [[]]
  | c :: s =>
    match keys s with
    | [] => [[c]]
    | key :: rest => (c :: key) :: rest

/-- The keys of a path. -/
def segments (path : String) : List String := (keys path.toList).map String.ofList

/-- Whether a path names more than one key. -/
def isNested (path : String) : Bool := (keys path.toList).length > 1

/-- The path that joins some keys. -/
def join (keys : List String) : String := delimiter.intercalate keys

theorem keys_ne_nil (s : List Char) : keys s ≠ [] := by
  fun_cases keys s <;> simp_all

end TelemetrySidecar.KeyPath
