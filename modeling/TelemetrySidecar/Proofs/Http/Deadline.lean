import TelemetrySidecar.Telemetry.Client
import TelemetrySidecar.Proofs.Text.Utf8

/-
  Requests with a deadline

  A request is followed through its redirections, and without a deadline a host
  that stays silent is waited for without end.

  What is proved: following a request is asking once and going on by what comes of
  it (`Http.follow_run`), so an answer that redirects nowhere is the final one
  (`Http.send_of_answered`), and visible text may stand in a header
  (`Http.isHeaderValue_encode`). With a deadline there is always an answer or a fault
  (`Http.send_isSome`), and a subscription never waits without end
  (`SubscriptionClient.subscribe_isSome`).
-/

namespace TelemetrySidecar

namespace Talk

variable {α β : Type} {x : Talk α} {f : α → Talk β} {log later : Log}

/-- A task that goes on with a value goes on with what depends on it. -/
theorem run_bind_of_some {a : α} (h : x.run.run log = (some a, later)) :
    (x >>= f).run.run log = (f a).run.run later := by
  simp only [OptionT.run_bind, StateT.run_bind, Option.elimM, h]
  rfl

/-- A task that waits forever never comes to what depends on it. -/
theorem run_bind_of_none (h : x.run.run log = (none, later)) :
    (x >>= f).run.run log = (none, later) := by
  simp only [OptionT.run_bind, StateT.run_bind, Option.elimM, h]
  rfl

end Talk

namespace Http

/-- What a client makes of an outcome when it may still be redirected `left` times. -/
def afterOutcome (host : Host) (deadline : Bool) (left : Nat) (request : Request) :
    Outcome → Talk (Except HttpFault Response)
  | .unconnected fault => pure (.error (.unconnected request.url fault))
  | .silent => if deadline then pure (.error (.timedOut request.url)) else Talk.stuck
  | .answered response =>
    match redirection? request response with
    | none => pure (.ok response)
    | some next =>
      match left with
      | 0 => pure (.error (.tooManyRedirections request.url))
      | left + 1 => follow host deadline left next

theorem follow_run (host : Host) (deadline : Bool) (left : Nat) (request : Request) (log : Log) :
    (follow host deadline left request).run.run log =
      (afterOutcome host deadline left request (host log request)).run.run
        (log ++ [⟨request, host log request⟩]) := by
  delta afterOutcome follow
  cases left with
  | zero => rfl
  | succ left => rfl

/-- Visible text may stand as the value of a header field. -/
theorem isHeaderValue_encode {s : String}
    (visible : ∀ c ∈ s.toList, 32 ≤ c.toNat ∧ c.toNat < 127) :
    isHeaderValue (Text.encode s) = true := by
  have small : ∀ c ∈ s.toList, c.toNat < 128 := fun c hc => Nat.lt_succ_of_lt (visible c hc).2
  rw [isHeaderValue, Text.encode_of_forall_char_lt small, List.all_map, List.all_eq_true]
  intro c hc
  obtain ⟨above, below⟩ := visible c hc
  simp [Text.toNat_ofNat_of_lt (small c hc), above, Nat.ne_of_lt below]

theorem isHeaderValue_jsonContent : isHeaderValue jsonContent.2 = true :=
  isHeaderValue_encode (by simp)

/-- An answer that redirects nowhere is what comes of a request. -/
theorem send_of_answered {host : Host} {method address : String} {headers : Headers}
    {body : List UInt8} {url : Url} {response : Response} {log : Log} (deadline : Bool)
    (reads : Url.read? address = some url)
    (fit : headers.all (fun h => isHeaderValue h.2) = true)
    (answered : host log ⟨method, url, headers, body⟩ = .answered response)
    (final : response.status ∉ redirections) :
    (send host deadline method address headers body).run.run log =
      (some (.ok response), log ++ [⟨⟨method, url, headers, body⟩, .answered response⟩]) := by
  have unredirected : redirection? ⟨method, url, headers, body⟩ response = none := by
    simp [redirection?, final]
  simp only [send, reads, fit, if_true]
  rw [follow_run, answered]
  simp only [afterOutcome, unredirected]
  rfl

theorem follow_isSome (host : Host) : ∀ (left : Nat) (request : Request) (log : Log),
    ((follow host true left request).run.run log).1.isSome := by
  intro left
  induction left with
  | zero =>
    intro request log
    rw [follow_run]
    unfold afterOutcome
    cases host log request with
    | unconnected | silent => rfl
    | answered response =>
      dsimp only
      cases redirection? request response with
      | none | some => rfl
  | succ left ih =>
    intro request log
    rw [follow_run]
    unfold afterOutcome
    cases host log request with
    | unconnected | silent => rfl
    | answered response =>
      dsimp only
      cases redirection? request response with
      | none => rfl
      | some next => exact ih next _

/-- With a deadline there is always an answer or a fault. -/
theorem send_isSome (host : Host) (method address : String) (headers : Headers)
    (body : List UInt8) (log : Log) :
    ((send host true method address headers body).run.run log).1.isSome := by
  unfold send
  split
  · rfl
  · split
    · exact follow_isSome ..
    · rfl

end Http

/-- A subscription is never waited for without end. -/
theorem SubscriptionClient.subscribe_isSome (host : Host) (client : SubscriptionClient)
    (identifier uri : String) (log : Log) :
    ((client.subscribe host identifier uri).run.run log).1.isSome := by
  unfold subscribe
  split
  · rfl
  · have answers := Http.send_isSome host "PUT" client.endpoint
      [(identifierField, Text.encode identifier), jsonContent]
      (Text.encode (client.subscription uri).value.toText) log
    rcases sent : (Http.send host true "PUT" client.endpoint
      [(identifierField, Text.encode identifier), jsonContent]
      (Text.encode (client.subscription uri).value.toText)).run.run log with ⟨_ | outcome, later⟩
    · rw [sent] at answers
      cases answers
    · rw [Talk.run_bind_of_some sent]
      cases outcome with
      | error | ok => rfl

end TelemetrySidecar
