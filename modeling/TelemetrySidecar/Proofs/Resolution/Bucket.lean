import TelemetrySidecar.Proofs.Text.Cut
import TelemetrySidecar.Resolution.Provider

/-
  Addresses of objects

  The address of a place in an object store is written part by part, and read by
  one cut after the other: the beginning, the first slash, the first `.s3.` of the
  host, its fixed end.

  What is proved: a place whose bucket and region hold no slash is read from its
  address if the first `.s3.` of the host stands right after the bucket
  (`read_uri_of_first`), and what is read from an address is such a place
  (`names_of_read`). So an address is accepted exactly if it names a place, and
  every other is refused (`accepted_iff_names`).

  It is not so that every place is read from its address: a bucket may itself hold
  `.s3.`, or end in `.s3`, and is cut there (`misread_inner_service`). It is so of
  all other buckets (`read_uri_eq_ok_iff`).
-/

namespace TelemetrySidecar.ObjectPlace

open Text (StandsFirst)

variable {place : ObjectPlace} {uri : List Char}

/-- What stands in an address between its beginning and the next slash. -/
def hostPart (uri : List Char) : List Char := (uri.drop lead.length).takeWhile (· ≠ '/')

/-- An address names a place: it is written of the place's parts, none of which is
empty, bucket and region without a slash, and of the places in its host where
`.s3.` stands the one right after the bucket is the first. -/
structure Names (uri : List Char) (place : ObjectPlace) : Prop where
  written : uri = place.uri
  bucket : place.bucket ≠ []
  region : place.region ≠ []
  key : place.key ≠ []
  bucket_unslashed : '/' ∉ place.bucket
  region_unslashed : '/' ∉ place.region
  first : ∀ front back, hostPart uri = front ++ service ++ back →
    place.bucket.length ≤ front.length

/-! ## The parts of an address -/

theorem uri_eq (place : ObjectPlace) : place.uri =
    lead ++ (place.bucket ++ service ++ (place.region ++ domain) ++ '/' :: place.key) := by
  simp [ObjectPlace.uri]

theorem not_mem_host (bucket : '/' ∉ place.bucket) (region : '/' ∉ place.region) :
    '/' ∉ place.bucket ++ service ++ (place.region ++ domain) := by
  have hservice : '/' ∉ service := by decide
  have hdomain : '/' ∉ domain := by decide
  simp [bucket, region, hservice, hdomain]

theorem hostPart_uri (bucket : '/' ∉ place.bucket) (region : '/' ∉ place.region) :
    hostPart place.uri = place.bucket ++ service ++ (place.region ++ domain) := by
  have hhost : ∀ c ∈ place.bucket ++ service ++ (place.region ++ domain), decide (c ≠ '/') = true := by
    intro c hc
    rw [decide_eq_true_eq]
    rintro rfl
    exact not_mem_host bucket region hc
  rw [hostPart, uri_eq, List.drop_left, List.takeWhile_append_of_pos hhost]
  simp

/-! ## Reading what was written -/

/-- The address of a place is cut where it was put together, if the first `.s3.` of
the host stands right after the bucket. -/
theorem read_uri_of_first (bucket : '/' ∉ place.bucket) (region : '/' ∉ place.region)
    (first : StandsFirst service place.bucket (place.region ++ domain)) :
    read place.uri =
      if place.bucket.isEmpty || place.region.isEmpty || place.key.isEmpty then .error .emptyPart
      else .ok place := by
  have hlead := Text.dropLead_eq_some.mpr (uri_eq place)
  have hslash := Text.cut_char_append (not_mem_host bucket region) place.key
  have hservice := Text.cut_eq_some_iff.mpr ⟨rfl, first⟩
  have hdomain : Text.dropTail domain (place.region ++ domain) = some place.region :=
    Text.dropTail_eq_some.mpr rfl
  simp only [read, hlead, hslash, hservice, hdomain]

/-! ## Writing what was read -/

/-- What is read was cut out of the address, one part after the other. -/
theorem cuts_of_read (h : read uri = .ok place) : ∃ rest host regionHost,
    Text.dropLead lead uri = some rest ∧ Text.cut ['/'] rest = some (host, place.key) ∧
    Text.cut service host = some (place.bucket, regionHost) ∧
    Text.dropTail domain regionHost = some place.region ∧
    place.bucket ≠ [] ∧ place.region ≠ [] ∧ place.key ≠ [] := by
  unfold read at h
  split at h
  · cases h
  · rename_i rest hlead
    split at h
    · cases h
    · rename_i host key hslash
      split at h
      · cases h
      · rename_i bucket regionHost hservice
        split at h
        · cases h
        · rename_i region hdomain
          split at h
          · cases h
          · rename_i parts
            cases h
            simp only [Bool.or_eq_true, List.isEmpty_iff, not_or] at parts
            exact ⟨rest, host, regionHost, hlead, hslash, hservice, hdomain,
              parts.1.1, parts.1.2, parts.2⟩

theorem names_of_read (h : read uri = .ok place) : Names uri place := by
  obtain ⟨rest, host, regionHost, hlead, hslash, hservice, hdomain, bucket, region, key⟩ :=
    cuts_of_read h
  obtain ⟨rfl, unslashed⟩ := Text.cut_char_eq_some_iff.mp hslash
  obtain ⟨rfl, first⟩ := Text.cut_eq_some_iff.mp hservice
  obtain rfl := Text.dropTail_eq_some.mp hdomain
  simp only [List.mem_append, not_or] at unslashed
  have written : uri = place.uri :=
    (Text.dropLead_eq_some.mp hlead).trans (uri_eq place).symm
  refine ⟨written, bucket, region, key, unslashed.1.1, unslashed.2.1, ?_⟩
  rw [written, hostPart_uri unslashed.1.1 unslashed.2.1]
  exact first

theorem Names.read (h : Names uri place) : ObjectPlace.read uri = .ok place := by
  have first : StandsFirst service place.bucket (place.region ++ domain) := by
    intro front back hsame
    refine h.first front back ?_
    rw [h.written, hostPart_uri h.bucket_unslashed h.region_unslashed, hsame]
  rw [h.written, read_uri_of_first h.bucket_unslashed h.region_unslashed first]
  simp [h.bucket, h.region, h.key]

/-- An address is read as a place exactly if it names it. If it names none, it is
refused as not valid, and nobody is asked for an object. -/
theorem accepted_iff_names (host : Host) (env : Environment) (uri : String) :
    (∀ place, ObjectPlace.read uri.toList = .ok place ↔ Names uri.toList place) ∧
    ((∀ place, ¬ Names uri.toList place) → ∃ fault, ObjectPlace.read uri.toList = .error fault ∧
      (Provider.objects host env).retrieve uri = throw (.invalidUri uri fault.reason)) := by
  refine ⟨fun place => ⟨names_of_read, Names.read⟩, fun unnamed => ?_⟩
  cases hread : ObjectPlace.read uri.toList with
  | ok place => exact absurd (names_of_read hread) (unnamed place)
  | error fault =>
    refine ⟨fault, rfl, ?_⟩
    simp only [Provider.objects, hread]

/-- A dot serves once: what ends the service's name does not begin the end of the host. -/
example : ObjectPlace.read "s3://b.s3.amazonaws.com/k".toList = .error .badHost := rfl

/-! ## Places that are read from their addresses -/

/-- The names of buckets are made of small letters, digits, dots and hyphens. -/
def isBucketChar (c : Char) : Bool := c.isLower || c.isDigit || c == '.' || c == '-'

/-- The names of regions are made of small letters, digits and hyphens. -/
def isRegionChar (c : Char) : Bool := c.isLower || c.isDigit || c == '-'

/-- A place whose parts are names in the store. -/
structure IsNamed (place : ObjectPlace) : Prop where
  bucket : place.bucket ≠ []
  bucket_chars : place.bucket.all isBucketChar = true
  region : place.region ≠ []
  region_chars : place.region.all isRegionChar = true
  key : place.key ≠ []

theorem IsNamed.bucket_unslashed (h : place.IsNamed) : '/' ∉ place.bucket := by
  intro hmem
  have : isBucketChar '/' = true := List.all_eq_true.mp h.bucket_chars '/' hmem
  cases this

theorem IsNamed.region_unslashed (h : place.IsNamed) : '/' ∉ place.region := by
  intro hmem
  have : isRegionChar '/' = true := List.all_eq_true.mp h.region_chars '/' hmem
  cases this

/-- A bucket is cut within: it holds `.s3.`, or ends in all of it but the last dot,
which then comes next. -/
def CutWithin (bucket : List Char) : Prop := service <:+: bucket ∨ service.dropLast <:+ bucket

/-- Whether `.s3.` stands first after a bucket is up to the bucket alone. -/
theorem standsFirst_service_iff {bucket : List Char} (rest : List Char) :
    StandsFirst service bucket rest ↔ ¬ CutWithin bucket := by
  constructor
  · have hlength : service.length = 4 ∧ service.dropLast.length = 3 := ⟨rfl, rfl⟩
    rintro first (⟨front, back, rfl⟩ | ⟨front, rfl⟩)
    · have := first front (back ++ service ++ rest) (by simp)
      simp only [List.length_append, hlength] at this
      omega
    · have := first front ("s3.".toList ++ rest) (by simp [service])
      simp only [List.length_append, hlength] at this
      omega
  · intro whole front back hsame
    rw [List.append_assoc, List.append_assoc] at hsame
    rcases List.append_eq_append_iff.mp hsame with ⟨between, rfl, -⟩ | ⟨between, rfl, hrest⟩
    · simp
    · -- What is left of the bucket after `front` begins as `.s3.` does.
      simp only [service] at hrest
      rcases between with _ | ⟨c, _ | ⟨d, _ | ⟨e, _ | ⟨f, between⟩⟩⟩⟩
      · simp
      · simp at hrest
      · simp at hrest
      · obtain ⟨rfl, rfl, rfl, -⟩ : c = '.' ∧ d = 's' ∧ e = '3' ∧ _ := by simpa [eq_comm] using hrest
        exact absurd (.inr ⟨front, rfl⟩) whole
      · obtain ⟨rfl, rfl, rfl, rfl, -⟩ : c = '.' ∧ d = 's' ∧ e = '3' ∧ f = '.' ∧ _ := by
          simpa [eq_comm] using hrest
        exact absurd (.inl ⟨front, between, by simp [service]⟩) whole

theorem cutWithin_iff (bucket : List Char) :
    CutWithin bucket ↔ Text.cut service (bucket ++ service) ≠ some (bucket, []) := by
  rw [ne_eq, Text.cut_eq_some_iff, standsFirst_service_iff, List.append_nil]
  simp

instance : DecidablePred CutWithin := fun bucket => decidable_of_iff _ (cutWithin_iff bucket).symm

theorem IsNamed.names_iff (h : place.IsNamed) : Names place.uri place ↔ ¬ CutWithin place.bucket := by
  rw [← standsFirst_service_iff (place.region ++ domain)]
  have hhost := hostPart_uri h.bucket_unslashed h.region_unslashed
  constructor
  · intro names front back hsame
    exact names.first front back (hhost.trans hsame)
  · intro first
    refine ⟨rfl, h.bucket, h.region, h.key, h.bucket_unslashed, h.region_unslashed, ?_⟩
    rw [hhost]
    exact first

/-- The address of a place is also that of the place whose bucket ends where `.s3.`
stands first, the rest being taken for a part of the region. -/
theorem uri_eq_of_split {front back : List Char}
    (split : place.bucket ++ service = front ++ service ++ back) :
    place.uri = (⟨front, back ++ place.region, place.key⟩ : ObjectPlace).uri := by
  calc place.uri
      = lead ++ (place.bucket ++ service) ++ place.region ++ domain ++ ['/'] ++ place.key := by
        simp [ObjectPlace.uri]
    _ = lead ++ (front ++ service ++ back) ++ place.region ++ domain ++ ['/'] ++ place.key := by
        rw [split]
    _ = (⟨front, back ++ place.region, place.key⟩ : ObjectPlace).uri := by
        simp [ObjectPlace.uri]

/-- A place is read from its address if and only if its bucket is not cut within.
In any case the bucket is taken to end where `.s3.` stands first, and what follows
of it is taken for a part of the region; an address without a bucket is refused. -/
theorem read_uri_eq_ok_iff (named : place.IsNamed) :
    (ObjectPlace.read place.uri = .ok place ↔ ¬ CutWithin place.bucket) ∧
    ∀ front back, place.bucket ++ service = front ++ service ++ back → ¬ CutWithin front →
      ObjectPlace.read place.uri =
        if front = [] then .error .emptyPart
        else .ok ⟨front, back ++ place.region, place.key⟩ := by
  refine ⟨⟨fun h => named.names_iff.mp (names_of_read h), fun h => (named.names_iff.mpr h).read⟩, ?_⟩
  intro front back split whole
  have unslashed : '/' ∉ front ++ service ++ back := by
    have hservice : '/' ∉ service := by decide
    rw [← split]
    simp [named.bucket_unslashed, hservice]
  simp only [List.mem_append, not_or] at unslashed
  have region : '/' ∉ back ++ place.region := by simp [unslashed.2, named.region_unslashed]
  rw [uri_eq_of_split split,
    read_uri_of_first unslashed.1.1 region ((standsFirst_service_iff _).mpr whole)]
  simp [named.region, named.key]

/-- A bucket that holds the name of the service between two dots. -/
def innerService : ObjectPlace := ⟨"my.s3.bucket".toList, "us-east-1".toList, "k".toList⟩

/-- A bucket that is nothing but that name after a dot. -/
def bareService : ObjectPlace := ⟨".s3".toList, "us-east-1".toList, "k".toList⟩

theorem isNamed_innerService : innerService.IsNamed :=
  ⟨by decide, by decide, by decide, by decide, by decide⟩

/-- The one is taken for a place in a region that does not exist, the other for no
place at all. -/
theorem misread_inner_service :
    innerService.IsNamed ∧ ObjectPlace.read innerService.uri ≠ .ok innerService ∧
    ObjectPlace.read innerService.uri =
      .ok ⟨"my".toList, "bucket.s3.us-east-1".toList, "k".toList⟩ ∧
    bareService.IsNamed ∧ ObjectPlace.read bareService.uri = .error .emptyPart := by
  have hread : ObjectPlace.read innerService.uri =
      .ok ⟨"my".toList, "bucket.s3.us-east-1".toList, "k".toList⟩ := rfl
  refine ⟨isNamed_innerService, ?_, hread, ⟨by decide, by decide, by decide, by decide, by decide⟩,
    rfl⟩
  rw [hread]
  intro hsame
  exact absurd (Except.ok.inj hsame) (by decide)

/-- A bucket with a dot that is not cut there. -/
def dottedBucket : ObjectPlace :=
  ⟨"my.bucket-1".toList, "eu-west-2".toList, "collector/s3.yaml".toList⟩

theorem read_uri_eq_ok_iff_dotted :
    dottedBucket.IsNamed ∧ ObjectPlace.read dottedBucket.uri = .ok dottedBucket ∧
    innerService.IsNamed ∧ ObjectPlace.read innerService.uri =
      .ok ⟨"my".toList, "bucket.s3.us-east-1".toList, "k".toList⟩ := by
  have named : dottedBucket.IsNamed := ⟨by decide, by decide, by decide, by decide, by decide⟩
  refine ⟨named, (read_uri_eq_ok_iff named).1.mpr (by decide), isNamed_innerService, ?_⟩
  exact (read_uri_eq_ok_iff isNamed_innerService).2 "my".toList "bucket.s3.".toList rfl (by decide)

end TelemetrySidecar.ObjectPlace
