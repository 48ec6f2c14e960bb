import TelemetrySidecar.Text.Cut

/-
  Objects in a store

  The address of an object names its bucket and region in the host, and its key
  in the path.
-/

namespace TelemetrySidecar

/-- Where an object lies. -/
structure ObjectPlace where
  bucket : List Char
  region : List Char
  key : List Char
  deriving DecidableEq, Repr

namespace ObjectPlace

def lead : List Char := "s3://".toList

/-- What stands between bucket and region. -/
def service : List Char := ".s3.".toList

/-- What follows the region. -/
def domain : List Char := ".amazonaws.com".toList

/-- Why an address is not that of an object. -/
inductive Fault where
  | noLead
  | noKey
  | badHost
  | emptyPart
  deriving DecidableEq, Repr

def Fault.reason : Fault → String
  | noLead => "expected s3:// prefix"
  | noKey => "missing object key"
  | badHost => "expected <bucket>.s3.<region>.amazonaws.com"
  | emptyPart => "bucket, region and key must be non-empty"

/-- The place an address names. -/
def read (uri : List Char) : Except Fault ObjectPlace :=
  match Text.dropLead lead uri with
  | none => .error .noLead
  | some rest =>
    match Text.cut ['/'] rest with
    | none => .error .noKey
    | some (host, key) =>
      match Text.cut service host with
      | none => .error .badHost
      | some (bucket, regionHost) =>
        match Text.dropTail domain regionHost with
        | none => .error .badHost
        | some region =>
          if bucket.isEmpty || region.isEmpty || key.isEmpty then .error .emptyPart
          else .ok ⟨bucket, region, key⟩

/-- The address of a place. -/
def uri (place : ObjectPlace) : List Char :=
  lead ++ place.bucket ++ service ++ place.region ++ domain ++ ['/'] ++ place.key

end ObjectPlace

end TelemetrySidecar
