import TelemetrySidecar.Proofs.Http.Deadline

/-
  Chains of redirections

  A client hands over one request. What is asked beyond that is what the responses
  redirect it to, and only the last response counts, unless that redirects too.

  What is proved: with a deadline a request always comes to a result. Its exchanges are
  a chain that begins with the request and is as long as its responses redirect it and
  it may be redirected, and the result is the response at the end of the chain, if there
  is one (`send_chain`).
-/

namespace TelemetrySidecar

/-- The response of an exchange, if there is one and it redirects nowhere. -/
def Exchange.final? (e : Exchange) : Option Response :=
  match e.outcome with
  | .answered response =>
    if (Http.redirection? e.request response).isNone then some response else none
  | .unconnected _ | .silent => none

/-- The response at the end of the exchanges, if there is one and it redirects nowhere. -/
def Log.final? (log : Log) : Option Response := log.getLast?.bind Exchange.final?

theorem Log.final?_cons {e : Exchange} {more : Log} (nonempty : more ≠ []) :
    Log.final? (e :: more) = more.final? := by
  rw [final?, List.getLast?_cons_of_ne_nil nonempty, final?]

namespace Http

/-- The exchanges of one request after others, which may be redirected so often: it is made once,
and whatever is asked besides is what the response before redirects to. -/
inductive Chain (host : Host) : Nat → Log → Request → Log → Prop where
  | once {left : Nat} {log : Log} {request : Request}
      (last : ∀ response, host log request = .answered response →
        (redirection? request response).isSome → left = 0) :
      Chain host left log request [⟨request, host log request⟩]
  | redirected {left : Nat} {log more : Log} {request next : Request} {response : Response}
      (answered : host log request = .answered response)
      (redirects : redirection? request response = some next)
      (later : Chain host left (log ++ [⟨request, .answered response⟩]) next more) :
      Chain host (left + 1) log request (⟨request, .answered response⟩ :: more)

section

variable {host : Host} {left : Nat} {log more : Log} {request : Request}

theorem Chain.ne_nil (h : Chain host left log request more) : more ≠ [] := by
  cases h with
  | once | redirected => simp

theorem Chain.length_le (h : Chain host left log request more) : more.length ≤ left + 1 := by
  induction h with
  | once => simp
  | redirected _ _ _ ih => simpa using ih

/-- What a request came to, with its exchanges. -/
structure Chained (host : Host) (left : Nat) (log : Log) (request : Request)
    (result : Except HttpFault Response) (more : Log) : Prop where
  chain : Chain host left log request more
  final : more.final? = result.toOption

/-- One exchange that is not followed by another. -/
theorem Chained.once {outcome : Outcome} {result : Except HttpFault Response}
    (came : host log request = outcome)
    (last : ∀ response, outcome = .answered response →
      (redirection? request response).isSome → left = 0)
    (final : Exchange.final? ⟨request, outcome⟩ = result.toOption) :
    Chained host left log request result [⟨request, outcome⟩] := by
  subst came
  exact ⟨.once last, final⟩

/-- A request with a deadline comes to a result. -/
def Answers (host : Host) (left : Nat) (request : Request) (log : Log) : Prop :=
  ∃ result more, (follow host true left request).run.run log = (some result, log ++ more) ∧
    Chained host left log request result more

theorem answers_of_fewer (fewer : ∀ l, left = l + 1 → ∀ request log, Answers host l request log)
    (request : Request) (log : Log) : Answers host left request log := by
  unfold Answers
  rw [follow_run]
  unfold afterOutcome
  cases outcome : host log request with
  | unconnected fault => exact ⟨_, _, rfl, .once outcome (by simp) rfl⟩
  | silent => exact ⟨_, _, rfl, .once outcome (by simp) rfl⟩
  | answered response =>
    dsimp only
    cases redirects : redirection? request response with
    | none =>
      refine ⟨_, _, rfl, .once outcome ?_ ?_⟩
      · rintro _ ⟨⟩ again
        simp [redirects] at again
      · simp [Exchange.final?, redirects, Except.toOption]
    | some next =>
      cases left with
      | zero =>
        refine ⟨_, _, rfl, .once outcome (fun _ _ _ => rfl) ?_⟩
        simp [Exchange.final?, redirects, Except.toOption]
      | succ left =>
        obtain ⟨result, more, run, chained⟩ :=
          fewer left rfl next (log ++ [⟨request, .answered response⟩])
        refine ⟨result, ⟨request, .answered response⟩ :: more, ?_,
          .redirected outcome redirects chained.chain, ?_⟩
        · dsimp only
          rw [run, List.append_assoc]
          rfl
        · rw [Log.final?_cons chained.chain.ne_nil, chained.final]

theorem answers (left : Nat) : ∀ (request : Request) (log : Log), Answers host left request log := by
  induction left with
  | zero => exact answers_of_fewer fun l h => by cases h
  | succ left ih => exact answers_of_fewer fun l h => by cases h; exact ih

/-- A request that can be sent comes to the response at the end of its chain, or to a fault. -/
theorem send_chain {method address : String} {headers : Headers} {url : Url} (body : List UInt8)
    (log : Log) (reads : Url.read? address = some url)
    (fit : headers.all (fun h => isHeaderValue h.2) = true) :
    ∃ result more, (send host true method address headers body).run.run log =
        (some result, log ++ more) ∧
      Chained host maxRedirections log ⟨method, url, headers, body⟩ result more := by
  unfold send
  simp only [reads, fit, if_true]
  exact answers maxRedirections _ log

end

end Http

end TelemetrySidecar
