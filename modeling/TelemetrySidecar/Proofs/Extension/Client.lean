import TelemetrySidecar.Proofs.Http.Deadline

/-
  Answers to the clients of a run

  What is proved: a request that is answered gives what its response says, for a
  registration (`ExtensionClient.register_of_answered`), a poll
  (`ExtensionClient.nextEvent_of_answered`) and a subscription
  (`SubscriptionClient.subscribe_of_answered`). The client keeps the identifier that
  a registration issued (`ExtensionClient.identifier_of_register`), and reads it as
  the host encoded it (`ExtensionClient.visibleText?_encode`).
-/

namespace TelemetrySidecar

variable {host : Host} {response : Response} {log later : Log}

namespace ExtensionClient

variable {client : ExtensionClient} {name : String}

/-- Visible text is read as it was before it was encoded. -/
theorem visibleText?_encode {s : String}
    (visible : ∀ c ∈ s.toList, 32 ≤ c.toNat ∧ c.toNat < 127) :
    visibleText? (Text.encode s) = some s := by
  have small : ∀ c ∈ s.toList, c.toNat < 128 := fun c hc => Nat.lt_succ_of_lt (visible c hc).2
  rw [visibleText?, Text.encode_of_forall_char_lt small, if_pos, Text.ofList_codes small]
  rw [List.all_map, List.all_eq_true]
  intro c hc
  obtain ⟨above, below⟩ := visible c hc
  simp [Text.toNat_ofNat_of_lt (small c hc), above, below]

theorem register_of_answered {registration : Registration}
    (sent : (Http.send host false "POST" (client.endpoint "register")
      [(nameField, Text.encode name), jsonContent]
      (Text.encode wantedEvents.toText)).run.run log = (some (.ok response), later))
    (read : registrationOf (client.endpoint "register") response = .ok registration) :
    (client.register host name).run.run log =
      (some (.ok registration, { client with identifier := some registration.extensionId }),
        later) := by
  refine (Talk.run_bind_of_some sent).trans ?_
  simp only [read]
  rfl

/-- A registration that succeeds leaves its identifier with the client. -/
theorem identifier_of_register {client' : ExtensionClient} {registration : Registration}
    (h : (client.register host name).run.run log = (some (.ok registration, client'), later)) :
    client'.identifier = some registration.extensionId := by
  rcases sent : (Http.send host false "POST" (client.endpoint "register")
    [(nameField, Text.encode name), jsonContent]
    (Text.encode wantedEvents.toText)).run.run log with ⟨_ | fault | response, between⟩
  · cases (Talk.run_bind_of_none sent).symm.trans h
  · cases (Talk.run_bind_of_some sent).symm.trans h
  · cases read : registrationOf (client.endpoint "register") response with
    | error e =>
      have refused := (Talk.run_bind_of_some sent).symm.trans h
      simp only [read] at refused
      cases refused
    | ok issued =>
      cases (register_of_answered sent read).symm.trans h
      rfl

theorem nextEvent_of_answered {identifier : String} (known : client.identifier = some identifier)
    (sent : (Http.send host false "GET" (client.endpoint "event/next")
      [(identifierField, Text.encode identifier)] []).run.run log = (some (.ok response), later)) :
    (client.nextEvent host).run.run log =
      (some (eventOf (client.endpoint "event/next") response), later) := by
  unfold nextEvent
  rw [known]
  exact (Talk.run_bind_of_some sent).trans rfl

end ExtensionClient

theorem SubscriptionClient.subscribe_of_answered {client : SubscriptionClient}
    {identifier uri : String} (fit : client.buffering.outOfBounds? = none)
    (sent : (Http.send host true "PUT" client.endpoint
      [(identifierField, Text.encode identifier), jsonContent]
      (Text.encode (client.subscription uri).value.toText)).run.run log =
        (some (.ok response), later)) :
    (client.subscribe host identifier uri).run.run log =
      (some (answerOf client.endpoint response), later) := by
  unfold subscribe
  rw [fit]
  exact (Talk.run_bind_of_some sent).trans rfl

end TelemetrySidecar
