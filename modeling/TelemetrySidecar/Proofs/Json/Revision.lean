import TelemetrySidecar.Extension.Registration
import TelemetrySidecar.Telemetry.Subscription
import TelemetrySidecar.Proofs.Extension.Event
import TelemetrySidecar.Proofs.Json.Written

/-
  Documents of other versions

  The platform may say more than is asked for, and in another order. What is read
  of an object is read of its revisions as well (`Json.Survives`): members that the
  reader does not know may come, go and change their places.

  What is proved: registrations, events of telemetry, subscriptions and lifecycle
  events survive revision (`decoders_survive_revision`). What the first three do not
  know is passed over, so that it may be anything well formed; a lifecycle event
  keeps all its members until the kind is known, and so each must have a value.
  A number beyond all numbers has none (`number_beyond_refused`).
-/

namespace TelemetrySidecar

namespace Json

/-- What is read of a text that is an object is read of every text that is a revision of
it, if the values there that the reader does not know are such as `admits` says. -/
def Survives {α : Type} (decode : String → Except Fault α) (names : α → List String)
    (admits : Tree → Prop) : Prop :=
  ∀ {text text' : String} {ms ms' : Members} {a : α}, IsObject text ms → IsObject text' ms' →
    Revised (names a) ms ms' →
    (∀ name value, (.ok name, value) ∈ ms' → String.ofList name ∉ names a → admits value) →
    decode text = .ok a → decode text' = .ok a

theorem Document.read_of_isObject {α : Type} {read : Nat → Tree → Except Fault α} {text : String}
    {ms : Members} {a : α} (h : IsObject text ms) :
    (Document.ofText text).read read = .ok a ↔ read maxDepth (.object ms .closed) = .ok a := by
  rw [Document.read_eq_ok_iff, h]
  exact and_iff_left rfl

/-- A record that asks for its fields by name survives, whatever is added. -/
theorem survives_record {α β : Type} {names : List String}
    {read : Nat → String → Tree → Except Fault α} {build : List (String × α) → Option β}
    (byName : ∀ fs gs, (∀ name, fs.lookup name = gs.lookup name) → build fs = build gs) :
    Survives
      (fun text => (Document.ofText text).read fun depth t => t.record depth names read build)
      (fun _ => names) (fun _ => True) := by
  intro text text' ms ms' b object object' revised _ h
  rw [Document.read_of_isObject object] at h
  rw [Document.read_of_isObject object']
  exact Tree.record_of_revised byName revised (passes_of_isObject object') h

end Json

open Json

theorem Registration.survives :
    Survives Registration.ofText (fun _ => Registration.fieldNames) (fun _ => True) :=
  survives_record fun fs gs same => by simp only [ofFields, same]

/-- The event of telemetry a text describes. -/
def TelemetryEvent.ofText (text : String) : Except Fault TelemetryEvent :=
  (Document.ofText text).read TelemetryEvent.read

theorem TelemetryEvent.survives :
    Survives TelemetryEvent.ofText (fun _ => TelemetryEvent.Field.names) (fun _ => True) :=
  survives_record fun fs gs same => by simp only [ofFields, same]

theorem Subscription.survives :
    Survives Subscription.ofText (fun _ => Subscription.Field.names) (fun _ => True) :=
  survives_record fun fs gs same => by simp only [ofFields, same]

namespace LifecycleEvent

/-- The members that an event knows: the one that says its kind, and the fields of the kind. -/
def knownNames (event : LifecycleEvent) : List String := kindName :: event.kind.fieldNames

theorem survives : Survives LifecycleEvent.ofText knownNames (HasValue (maxDepth - 1)) := by
  intro text text' ms ms' event object object' revised valued h
  rw [ofText, Document.read_of_isObject object] at h
  rw [ofText, Document.read_of_isObject object']
  exact read_of_revised revised valued h

theorem ofText_of_reason {text text' : String} {before after : Members} {name other : List Char}
    {reason : ShutdownReason} {deadlineMs : Nat}
    (object : IsObject text (before ++ (.ok reasonName, .text (.ok name)) :: after))
    (object' : IsObject text' (before ++ (.ok reasonName, .text (.ok other)) :: after))
    (h : LifecycleEvent.ofText text = .ok (.shutdown reason deadlineMs)) :
    LifecycleEvent.ofText text' = .ok (.shutdown (.ofName (String.ofList other)) deadlineMs) := by
  rw [ofText, Document.read_of_isObject object] at h
  rw [ofText, Document.read_of_isObject object']
  have first := read_of_perm List.perm_middle h
  exact read_of_perm List.perm_middle.symm (read_of_reason other first)

end LifecycleEvent

theorem ShutdownReason.ofName_eq_unknown {name : String}
    (unknown : name ∉ ["spindown", "timeout", "failure"]) : ofName name = .unknown := by
  simp only [List.mem_cons, List.not_mem_nil, or_false, not_or] at unknown
  obtain ⟨spindown, timeout, failure⟩ := unknown
  simp [ofName, ShutdownReason.name, beq_false_of_ne (Ne.symm spindown),
    beq_false_of_ne (Ne.symm timeout), beq_false_of_ne (Ne.symm failure)]

/-- All four decoders survive revision, and a reason that is not known is read as such. -/
theorem decoders_survive_revision :
    Survives Registration.ofText (fun _ => Registration.fieldNames) (fun _ => True) ∧
    Survives TelemetryEvent.ofText (fun _ => TelemetryEvent.Field.names) (fun _ => True) ∧
    Survives Subscription.ofText (fun _ => Subscription.Field.names) (fun _ => True) ∧
    Survives LifecycleEvent.ofText LifecycleEvent.knownNames
      (LifecycleEvent.HasValue (maxDepth - 1)) ∧
    ∀ {text text' : String} {before after : Members} {name other : List Char}
      {reason : ShutdownReason} {deadlineMs : Nat},
      IsObject text (before ++ (.ok LifecycleEvent.reasonName, .text (.ok name)) :: after) →
      IsObject text' (before ++ (.ok LifecycleEvent.reasonName, .text (.ok other)) :: after) →
      String.ofList other ∉ ["spindown", "timeout", "failure"] →
      LifecycleEvent.ofText text = .ok (.shutdown reason deadlineMs) →
      LifecycleEvent.ofText text' = .ok (.shutdown .unknown deadlineMs) := by
  refine ⟨Registration.survives, TelemetryEvent.survives, Subscription.survives,
    LifecycleEvent.survives, ?_⟩
  intro text text' before after name other reason deadlineMs object object' unknown h
  rw [← ShutdownReason.ofName_eq_unknown unknown]
  exact LifecycleEvent.ofText_of_reason object object' h

/-! ## An event and its revisions -/

/-- A shutdown as it is known, its kind said first. -/
def sampleShutdown : Value :=
  .object [("eventType", .text "SHUTDOWN"), ("shutdownReason", .text "later"),
    ("deadlineMs", .number (.int 7))]

/-- The same with its kind said last, and with a member that is not known. -/
def sampleRevision : Value :=
  .object [("traces", .list [.text "a"]), ("deadlineMs", .number (.int 7)),
    ("shutdownReason", .text "later"), ("eventType", .text "SHUTDOWN")]

/-- The event is read of the revision as well, its reason as unknown. -/
theorem decoders_survive_revision_tagLast :
    LifecycleEvent.ofText sampleShutdown.toText = .ok (.shutdown .unknown 7) ∧
      LifecycleEvent.ofText sampleRevision.toText = .ok (.shutdown .unknown 7) := by
  have object : IsObject sampleShutdown.toText _ := Value.ofText_toText sampleShutdown
  have object' : IsObject sampleRevision.toText _ := Value.ofText_toText sampleRevision
  have decoded : LifecycleEvent.ofText sampleShutdown.toText = .ok (.shutdown .unknown 7) := by
    decide +kernel
  refine ⟨decoded, decoders_survive_revision.2.2.2.1 object object' ?_ ?_ decoded⟩
  · exact .later (.permuted (List.reverse_perm _).symm) (.added (by decide))
  · intro name value hm unknown
    rcases List.mem_cons.mp hm with same | hm
    · cases same
      exact ⟨.list [.text "a"], rfl⟩
    · -- All other members are known.
      have other : name ∈ ["deadlineMs".toList, "shutdownReason".toList, "eventType".toList] := by
        simp only [Value.asMembers, List.mem_cons, List.not_mem_nil, or_false, Prod.mk.injEq,
          Except.ok.injEq] at hm
        rcases hm with ⟨rfl, _⟩ | ⟨rfl, _⟩ | ⟨rfl, _⟩ <;> simp
      have known : ∀ name ∈ ["deadlineMs".toList, "shutdownReason".toList, "eventType".toList],
          String.ofList name ∈ LifecycleEvent.knownNames (.shutdown .unknown 7) := by decide
      exact absurd (known name other) unknown

/-- An invocation of which nothing is known but its kind. -/
def sampleInvoke : String := "\x7b\"eventType\":\"INVOKE\"\x7d"

/-- The same with a number beyond all numbers. -/
def sampleBeyond : String := "\x7b\"eventType\":\"INVOKE\",\"x\":1e999\x7d"

/-- What a document of two members says, a text and a number. -/
def textAndNumber? (d : Document) : Option ((List Char × List Char) × List Char × List Char) :=
  match d with
  | ⟨.object [(.ok kind, .text (.ok text)), (.ok name, .number digits)] .closed, false⟩ =>
    some ((kind, text), name, digits)
  | _ => none

theorem eq_of_textAndNumber {d : Document} {kind text name digits : List Char}
    (said : textAndNumber? d = some ((kind, text), name, digits)) :
    d = ⟨.object [(.ok kind, .text (.ok text)), (.ok name, .number digits)] .closed, false⟩ := by
  unfold textAndNumber? at said
  split at said
  · cases said
    rfl
  · cases said

theorem isObject_sampleBeyond : IsObject sampleBeyond
    [(.ok "eventType".toList, .text (.ok "INVOKE".toList)),
      (.ok ['x'], .number "1e999".toList)] :=
  eq_of_textAndNumber (by decide +kernel)

/-- A lifecycle event does not survive a revision that adds a number beyond all numbers, which
is passed over in a registration. A name with half a surrogate pair is passed over nowhere. -/
theorem number_beyond_refused :
    ¬ Survives LifecycleEvent.ofText LifecycleEvent.knownNames (fun _ => True) ∧
      LifecycleEvent.ofText sampleInvoke = .ok (.invoke 0 "" "") ∧
      LifecycleEvent.ofText sampleBeyond = .error .malformed ∧
      Registration.ofText sampleBeyond = Registration.ofText sampleInvoke ∧
      (Registration.ofText sampleInvoke).isOk ∧
      Registration.ofText "\x7b\"\\ud800\":null\x7d" = .error .malformed := by
  have decoded : LifecycleEvent.ofText sampleInvoke = .ok (.invoke 0 "" "") := by decide +kernel
  have refused : LifecycleEvent.ofText sampleBeyond = .error .malformed := by decide +kernel
  refine ⟨fun survives => ?_, decoded, refused, by decide +kernel, by decide +kernel,
    by decide +kernel⟩
  have object : IsObject sampleInvoke [(.ok "eventType".toList, .text (.ok "INVOKE".toList))] :=
    Value.ofText_toText (.object [("eventType", .text "INVOKE")])
  have unknown : String.ofList ['x'] ∉ LifecycleEvent.knownNames (.invoke 0 "" "") := by decide
  have kept := survives object isObject_sampleBeyond
    (.later (.added unknown) (.permuted (.swap _ _ _))) (fun _ _ _ _ => trivial) decoded
  cases refused.symm.trans kept

end TelemetrySidecar
