import TelemetrySidecar.Text.Cut
import TelemetrySidecar.Text.Utf8

/-
  Web addresses

  An absolute address of a resource: protocol, authority and target. Addresses
  are read leniently at their ends and between their parts, as browsers read
  them: blanks and controls around the text do not count, tabs and line breaks
  nowhere, and any number of slashes of either kind stands before the authority.
-/

namespace TelemetrySidecar

/-- An absolute web address. The target is the path with the query. -/
structure Url where
  secure : Bool
  authority : String
  target : String
  deriving DecidableEq, Repr

namespace Url

def isSlash (c : Char) : Bool := c == '/' || c == '\\'

/-- Where an authority ends. -/
def endsAuthority (c : Char) : Bool := isSlash c || c == '?' || c == '#'

/-- The characters no name of a host holds. -/
def isForbidden (c : Char) : Bool :=
  c.toNat ≤ 0x20 || c.toNat == 0x7F || "#/<>?@[\\]^|%:".toList.contains c

/-- The text without what does not count. -/
def cleaned (s : List Char) : List Char :=
  let isEdge (c : Char) : Bool := c.toNat ≤ 0x20
  let s := ((s.dropWhile isEdge).reverse.dropWhile isEdge).reverse
  s.filter fun c => !(c == '\t' || c == '\n' || c == '\r')

/-- The number of 16 bits that digits make. -/
def port? (digits : List Char) : Option Nat :=
  let n := digits.foldl (fun n c => min 65536 (10 * n + (c.toNat - '0'.toNat))) 0
  if digits.all Char.isDigit && n < 65536 then some n else none

/-- A port as it is written after a host; that of the protocol itself is not. -/
def portText (secure : Bool) (port : Nat) : String :=
  if port = (if secure then 443 else 80) then "" else ":" ++ toString port

/-- The host and the port of an authority, which follow the last at sign and
stand around a colon. -/
def authority? (secure : Bool) (s : List Char) : Option String :=
  let s := (s.reverse.takeWhile (· != '@')).reverse
  let (host, port) := match s with
    | '[' :: _ => (s.takeWhile (· != ']') ++ [']'], s.dropWhile (· != ']') |>.drop 1)
    | _ => (s.takeWhile (· != ':'), s.dropWhile (· != ':'))
  let inside := match host with
    | '[' :: rest => rest.dropLast.all fun c => c.isAlphanum || c == ':' || c == '.'
    | _ => !host.isEmpty && !host.any isForbidden
  let port := match port with
    | [] | [':'] => some ""
    | ':' :: digits => (port? digits).map (portText secure)
    | _ => none
  if inside then port.map (String.ofList (host.map Char.toLower) ++ ·) else none

/-- The segments of a path without those that stand for a directory or the one
above. -/
def plainSegments (done : List (List Char)) : List (List Char) → List (List Char)
  | [] => done
  | [['.']] => done ++ [[]]
  | [['.', '.']] => done.dropLast ++ [[]]
  | ['.'] :: rest => plainSegments done rest
  | ['.', '.'] :: rest => plainSegments done.dropLast rest
  | segment :: rest => plainSegments (done ++ [segment]) rest

/-- An octet as a percent sign and two digits. -/
def escaped (b : UInt8) : List Char :=
  let digits := (Nat.toDigits 16 b.toNat).map Char.toUpper
  ['%'] ++ (if digits.length < 2 then ['0'] else []) ++ digits

/-- The characters of a part, those outside ASCII and those of a class
escaped. -/
def escape (isEscaped : Char → Bool) (s : List Char) : List Char :=
  s.flatMap fun c =>
    if c.toNat ≤ 0x20 || c.toNat ≥ 0x7F || isEscaped c then
      (Text.encode (String.singleton c)).flatMap escaped
    else [c]

/-- The target that a text after the authority names. -/
def targetOf (s : List Char) : String :=
  let s := s.takeWhile (· != '#')
  let path := (s.takeWhile (· != '?')).map fun c => if c == '\\' then '/' else c
  let query := s.dropWhile (· != '?')
  let segments := plainSegments [] ((Text.pieces '/' path).drop 1)
  let path := if segments.isEmpty then ['/'] else segments.flatMap (['/'] ++ ·)
  String.ofList (escape (fun c => "\"<>\x60\x7b\x7d^".toList.contains c) path
    ++ escape (fun c => "\"<>'".toList.contains c) query)

/-- The address after the protocol. -/
def afterProtocol (secure : Bool) (s : List Char) : Option Url :=
  let s := s.dropWhile isSlash
  (authority? secure (s.takeWhile fun c => !endsAuthority c)).map fun authority =>
    ⟨secure, authority, targetOf (s.dropWhile fun c => !endsAuthority c)⟩

/-- The absolute web address a text is. -/
def read? (text : String) : Option Url :=
  match Text.cut [':'] (cleaned text.toList) with
  | none => none
  | some (protocol, rest) =>
    let protocol := protocol.map Char.toLower
    if protocol = "http".toList then afterProtocol false rest
    else if protocol = "https".toList then afterProtocol true rest
    else none

/-- The address that a text names beside another address. -/
def join (base : Url) (text : String) : Option Url :=
  let s := cleaned text.toList
  match read? text with
  | some url => some url
  | none =>
    if (Text.cut [':'] (s.takeWhile fun c => !endsAuthority c)).isSome then none
    else match s with
      | c :: d :: _ =>
        if isSlash c && isSlash d then afterProtocol base.secure s
        else some { base with target := relative c s }
      | [c] => some { base with target := relative c s }
      | [] => some base
where
  /-- The target of a text that begins with the character given. -/
  relative (c : Char) (s : List Char) : String :=
    let path := base.target.toList.takeWhile (· != '?')
    if isSlash c then targetOf s
    else if c == '?' then targetOf (path ++ s)
    else if c == '#' then base.target
    else targetOf ((path.reverse.dropWhile (· != '/')).reverse ++ s)

/-- The address as text. -/
def text (url : Url) : String :=
  (if url.secure then "https://" else "http://") ++ url.authority ++ url.target

end Url

end TelemetrySidecar
