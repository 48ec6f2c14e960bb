import TelemetrySidecar.Proofs.Http.Deadline

/-
  Exchanges of one request

  A request that is redirected takes several exchanges; what the last of them was
  answered with is its final response (`Log.response?`).

  What is proved: a request is answered with its final response and with nothing
  else, and redirections of a request that only asks keep its header
  (`Http.Followed`, `Http.send_followed`).
-/

namespace TelemetrySidecar

/-- The response of an exchange, if there was one. -/
def Exchange.response? (e : Exchange) : Option Response :=
  match e.outcome with
  | .answered response => some response
  | _ => none

/-- The response of the last exchange. -/
def Log.response? (log : Log) : Option Response := log.getLast?.bind Exchange.response?

namespace Http

/-- What a request of some method and header came to, with the exchanges it took. -/
structure Followed (method : String) (headers : Headers)
    (result : Option (Except HttpFault Response)) (more : Log) : Prop where
  /-- What is answered in the end is the response of the last exchange. -/
  last : ∀ {response}, result = some (.ok response) → more.response? = some response
  /-- A last response that redirects nowhere is what is answered. -/
  final : ∀ {response}, more.response? = some response → response.status ∉ redirections →
    result = some (.ok response)
  /-- Redirections keep the header of a request that only asks. -/
  kept : method = "GET" → ∀ e ∈ more, e.request.headers = headers

theorem redirection?_of_not_mem {request : Request} {response : Response}
    (final : response.status ∉ redirections) : redirection? request response = none := by
  simp [redirection?, final]

/-- A request that only asks is redirected to one that asks the same with the same header. -/
theorem redirection?_of_get {request next : Request} {response : Response}
    (asks : request.method = "GET") (h : redirection? request response = some next) :
    next.method = "GET" ∧ next.headers = request.headers := by
  by_cases moved : response.status ∈ redirections
  · simp only [redirection?, asks, moved, List.contains_eq_mem, decide_true, Bool.not_true,
      Bool.false_eq_true, if_false, Bool.true_or, if_true, Option.bind_eq_bind,
      Option.bind_eq_some_iff, ite_self, Option.pure_def, Option.some.injEq] at h
    obtain ⟨_, _, _, _, rfl⟩ := h
    exact ⟨rfl, rfl⟩
  · cases (redirection?_of_not_mem moved).symm.trans h

namespace Followed

variable {request next : Request} {result : Option (Except HttpFault Response)} {more : Log}
  {outcome : Outcome}

/-- One exchange without a response. -/
theorem unanswered (none : (⟨request, outcome⟩ : Exchange).response? = none)
    (failed : ∀ response, result ≠ some (.ok response)) :
    Followed request.method request.headers result [⟨request, outcome⟩] where
  last h := absurd h (failed _)
  final h := by cases none.symm.trans h
  kept _ := by simp

/-- One exchange whose response redirects nowhere. -/
theorem answered (response : Response) :
    Followed request.method request.headers (some (.ok response))
      [⟨request, .answered response⟩] where
  last h := by
    cases h
    rfl
  final h _ := by
    cases h
    rfl
  kept _ := by simp

/-- One exchange whose response redirects once too often. -/
theorem refused {response : Response} (redirects : redirection? request response = some next)
    (failed : ∀ response, result ≠ some (.ok response)) :
    Followed request.method request.headers result [⟨request, .answered response⟩] where
  last h := absurd h (failed _)
  final h unmoved := by
    cases h
    cases (redirection?_of_not_mem unmoved).symm.trans redirects
  kept _ := by simp

/-- One exchange whose response redirects, and those of the next request. -/
theorem redirected {response : Response} (redirects : redirection? request response = some next)
    (nonempty : more ≠ []) (later : Followed next.method next.headers result more) :
    Followed request.method request.headers result (⟨request, .answered response⟩ :: more) := by
  have same : Log.response? (⟨request, .answered response⟩ :: more) = more.response? := by
    rw [Log.response?, List.getLast?_cons_of_ne_nil nonempty, Log.response?]
  refine ⟨fun h => same.trans (later.last h), fun h => later.final (same.symm.trans h), ?_⟩
  intro asks e he
  obtain ⟨asks', header⟩ := redirection?_of_get asks redirects
  rcases List.mem_cons.mp he with rfl | he
  · rfl
  · exact (later.kept asks' e he).trans header

end Followed

/-- What following a request adds to the log, with what comes of it. -/
def Follows (host : Host) (deadline : Bool) (left : Nat) (request : Request) (log : Log) : Prop :=
  ∃ result more, (follow host deadline left request).run.run log = (result, log ++ more) ∧
    more ≠ [] ∧ Followed request.method request.headers result more

theorem follows_of_fewer {host : Host} {deadline : Bool} {left : Nat}
    (fewer : ∀ l, left = l + 1 → ∀ request log, Follows host deadline l request log)
    (request : Request) (log : Log) : Follows host deadline left request log := by
  unfold Follows
  rw [follow_run]
  unfold afterOutcome
  cases host log request with
  | unconnected fault => exact ⟨_, _, rfl, by simp, .unanswered rfl (by simp)⟩
  | silent =>
    cases deadline with
    | true => exact ⟨_, _, rfl, by simp, .unanswered rfl (by simp)⟩
    | false => exact ⟨_, _, rfl, by simp, .unanswered rfl (by simp)⟩
  | answered response =>
    dsimp only
    cases redirects : redirection? request response with
    | none => exact ⟨_, _, rfl, by simp, .answered response⟩
    | some next =>
      cases left with
      | zero => exact ⟨_, _, rfl, by simp, .refused redirects (by simp)⟩
      | succ left =>
        obtain ⟨result, more, run, nonempty, later⟩ :=
          fewer left rfl next (log ++ [⟨request, .answered response⟩])
        refine ⟨result, ⟨request, .answered response⟩ :: more, ?_, by simp,
          .redirected redirects nonempty later⟩
        dsimp only
        rw [run, List.append_assoc]
        rfl

theorem follows (host : Host) (deadline : Bool) (left : Nat) :
    ∀ (request : Request) (log : Log), Follows host deadline left request log := by
  induction left with
  | zero => exact follows_of_fewer fun l h => by cases h
  | succ left ih => exact follows_of_fewer fun l h => by cases h; exact ih

/-- A request that can be sent adds its exchanges to the log; one that cannot adds none. -/
theorem send_followed (host : Host) (deadline : Bool) (method address : String)
    (headers : Headers) (body : List UInt8) (log : Log) :
    ∃ result more, (send host deadline method address headers body).run.run log =
      (result, log ++ more) ∧ Followed method headers result more ∧
      ((Url.read? address).isSome → headers.all (fun h => isHeaderValue h.2) = true →
        more ≠ []) := by
  have unsent (fault : HttpFault) : Followed method headers (some (.error fault)) [] :=
    ⟨fun h => (by cases h), fun h => (by cases h), fun _ => by simp⟩
  unfold send
  split
  · rename_i unread
    exact ⟨_, [], by rw [List.append_nil]; rfl, unsent _, fun reads => by simp [unread] at reads⟩
  · split
    · obtain ⟨result, more, run, nonempty, followed⟩ :=
        follows host deadline maxRedirections _ log
      exact ⟨result, more, run, followed, fun _ _ => nonempty⟩
    · rename_i unfit
      exact ⟨_, [], by rw [List.append_nil]; rfl, unsent _, fun _ fit => absurd fit unfit⟩

end Http

end TelemetrySidecar
