import TelemetrySidecar.Text.Cut
import TelemetrySidecar.Text.Utf8

/-
  Files

  The files below the current directory. A path is walked name by name from
  there; nothing is known of what lies outside but that its directories exist.
  Single files may also be known by the very path they are asked for.
-/

namespace TelemetrySidecar

/-- What the file system says instead of giving a file. -/
inductive FileFault where
  | notFound
  | notADirectory
  | isADirectory
  | invalidData
  | invalidInput
  | invalidName
  deriving DecidableEq, Repr

/-- The files below the current directory, each under the names that lead to
it. -/
structure Files where
  contents : List (List String × List UInt8) := []
  /-- Files known by a path. -/
  named : List (String × List UInt8) := []

namespace Files

/-- No file at all. -/
def empty : Files := {}

/-- Where a walk stands: in a directory or at a file below the current
directory, or in a directory outside. -/
inductive Spot where
  | directory (names : List String)
  | file (octets : List UInt8)
  | outside

/-- The longest name a directory holds, in octets. -/
def maxName : Nat := 255

/-- The longest path, in octets. -/
def maxPath : Nat := 4095

/-- Whether some file lies below the names given. -/
def isDirectory (files : Files) (names : List String) : Bool :=
  names.isEmpty || files.contents.any fun f =>
    names.length < f.1.length && f.1.take names.length == names

/-- One name further. -/
def step (files : Files) (spot : Spot) (name : String) : Except FileFault Spot :=
  match spot with
  | .file _ => .error .notADirectory
  | .outside =>
    if name = "" || name = "." || name = ".." then .ok .outside
    else .error (if (Text.encode name).length > maxName then .invalidName else .notFound)
  | .directory names =>
    if name = "" || name = "." then .ok spot
    else if name = ".." then .ok (if names.isEmpty then .outside else .directory names.dropLast)
    else if (Text.encode name).length > maxName then .error .invalidName
    else
      let names := names ++ [name]
      match files.contents.lookup names with
      | some octets => .ok (.file octets)
      | none => if files.isDirectory names then .ok (.directory names) else .error .notFound

def walk (files : Files) : Spot → List String → Except FileFault Spot
  | spot, [] => .ok spot
  | spot, name :: rest =>
    match files.step spot name with
    | .error e => .error e
    | .ok spot => files.walk spot rest

/-- The octets of the file that a path leads to. -/
def find (files : Files) (path : String) : Except FileFault (List UInt8) :=
  let cs := path.toList
  if cs.contains '\x00' then .error .invalidInput
  else if cs.isEmpty then .error .notFound
  else if (Text.encode path).length > maxPath then .error .invalidName
  else
    let start := if cs.head? = some '/' then Spot.outside else .directory []
    match files.walk start ((Text.pieces '/' cs).map String.ofList) with
    | .error e => .error e
    | .ok (.file octets) => .ok octets
    | .ok _ => .error .isADirectory

/-- The octets of the file at a path. -/
def read (files : Files) (path : String) : Except FileFault (List UInt8) :=
  match files.named.lookup path with
  | some octets => .ok octets
  | none => files.find path

/-- The text of the file at a path. -/
def readText (files : Files) (path : String) : Except FileFault String :=
  match files.read path with
  | .error e => .error e
  | .ok octets =>
    match Text.decode? octets with
    | some cs => .ok (String.ofList cs)
    | none => .error .invalidData

/-- Whether there is anything at a path. -/
def has (files : Files) (path : String) : Bool :=
  match files.read path with
  | .ok _ | .error .isADirectory => true
  | .error _ => false

end Files

end TelemetrySidecar
