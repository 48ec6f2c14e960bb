import TelemetrySidecar.Proofs.Trace
import TelemetrySidecar.Receiver.Intake

/-
  What becomes of the batches

  A request that brings a batch is read, its batch is offered to the channel, and
  what the channel took is counted before the request is answered. The consumer
  takes the batches out again.

  What is proved: the results of a step of the intake are listed once
  (`move_of_step`). Whatever the order of the steps, the batches that the channel
  took are those of the requests that are counted or were answered with 200, each
  once, each what the body of its request describes, and while the channel is
  open they are the batches received and then those still held (`conserves`,
  `Conserves.mem_indices_iff`).
-/

namespace TelemetrySidecar.Intake

/-- A batch that the channel took, with the number of the request that brought it. -/
structure Acceptance where
  index : Nat
  batch : Batch

/-- The acceptance that happens in a step. -/
def acceptance? (t : Intake) : Event → Option Acceptance
  | .handle index =>
    match t.handlers[index]? with
    | some (.toOffer batch) =>
      match t.channel.offer batch with
      | .ok _ => some ⟨index, batch⟩
      | .error _ => none
    | _ => none
  | _ => none

/-- The batches that the channel took, in order. -/
def acceptances (past : List (Transition Intake Event)) : List Acceptance :=
  past.filterMap fun m => m.before.acceptance? m.label

/-- The body that a request brings. -/
def Event.body? : Event → Option (List UInt8)
  | .request body => some body
  | _ => none

/-- The bodies of the requests so far, in order. -/
def bodies (past : List (Transition Intake Event)) : List (List UInt8) :=
  past.filterMap fun m => m.label.body?

/-! ## What a step can do -/

/-- The status that a handler answers with when its batch is refused. -/
def statusOf : Refusal → Nat
  | .full => 503
  | .closed => 500

/-- All that may follow on a state, with the event and the acceptance. -/
inductive Move (t : Intake) : Event → Intake → Option Acceptance → Prop where
  | requested {body : List UInt8} :
      Move t (.request body) { t with handlers := t.handlers ++ [.toRead body] } none
  | reads {index : Nat} {body : List UInt8} {batch : Batch}
      (handler : t.handlers[index]? = some (.toRead body))
      (valid : Batch.ofOctets body = .ok batch) :
      Move t (.handle index) { t with handlers := t.handlers.set index (.toOffer batch) } none
  | rejects {index : Nat} {body : List UInt8} {fault : Json.Fault}
      (handler : t.handlers[index]? = some (.toRead body))
      (invalid : Batch.ofOctets body = .error fault) :
      Move t (.handle index) { t with handlers := t.handlers.set index (.answered 400) } none
  | accepts {index : Nat} {batch : Batch} (handler : t.handlers[index]? = some (.toOffer batch))
      (isOpen : t.channel.isOpen = true) (room : t.channel.queue.length < t.channel.capacity) :
      Move t (.handle index)
        { t with channel := { t.channel with queue := t.channel.queue ++ [batch] },
                 accepted := t.accepted ++ [batch], handlers := t.handlers.set index .toCount }
        (some ⟨index, batch⟩)
  | refuses {index : Nat} {batch : Batch} {refusal : Refusal}
      (handler : t.handlers[index]? = some (.toOffer batch))
      (refused : t.channel.offer batch = .error refusal) :
      Move t (.handle index)
        { t with handlers := t.handlers.set index (.answered (statusOf refusal)) } none
  | counts {index : Nat} (handler : t.handlers[index]? = some .toCount) :
      Move t (.handle index)
        { t with counter := t.counter + 1, handlers := t.handlers.set index (.answered 200) } none
  | receives {batch : Batch} {rest : List Batch} (held : t.channel.queue = batch :: rest) :
      Move t .receive
        { t with channel := { t.channel with queue := rest }, received := t.received ++ [batch] }
        none
  | closes (isOpen : t.channel.isOpen = true) :
      Move t .close { t with channel := t.channel.close } none

/-- Every result of a step is in the list. -/
theorem move_of_step {t u : Intake} {event : Event} (h : t.step event = some u) :
    Move t event u (t.acceptance? event) := by
  cases event with
  | request body => cases h; exact .requested
  | handle index =>
    obtain ⟨handler, hindex, h⟩ := Option.bind_eq_some_iff.mp h
    simp only [acceptance?, hindex]
    cases handler with
    | toRead body =>
      simp only [advance] at h
      split at h
      · rename_i batch valid
        cases h; exact .reads hindex valid
      · rename_i fault invalid
        cases h; exact .rejects hindex invalid
    | toOffer batch =>
      simp only [advance] at h
      cases hoffer : t.channel.offer batch with
      | ok channel =>
        simp only [hoffer] at h ⊢
        unfold Channel.offer at hoffer
        split at hoffer
        · cases hoffer
        · rename_i hopen
          split at hoffer
          · cases hoffer
          · rename_i room
            cases hoffer
            cases h
            exact .accepts hindex (by simpa using hopen) (Nat.lt_of_not_le room)
      | error refusal =>
        simp only [hoffer] at h ⊢
        cases refusal with
        | full => cases h; exact .refuses hindex hoffer
        | closed => cases h; exact .refuses hindex hoffer
    | toCount => cases h; exact .counts hindex
    | answered status => cases h
  | receive =>
    cases hqueue : t.channel.queue with
    | nil => simp [step, Channel.take?, hqueue] at h
    | cons batch rest =>
      have hu : u = { t with
          channel := { t.channel with queue := rest }, received := t.received ++ [batch] } := by
        simpa [step, Channel.take?, hqueue] using h.symm
      rw [hu]
      exact .receives hqueue
  | close =>
    obtain ⟨isOpen, h⟩ := Option.ite_none_right_eq_some.mp h
    cases h; exact .closes isOpen

/-- Only who closes the channel closes it. -/
theorem Move.isOpen {t u : Intake} {event : Event} {acceptance : Option Acceptance}
    (m : Move t event u acceptance) (unclosed : event ≠ .close)
    (isOpen : t.channel.isOpen = true) : u.channel.isOpen = true := by
  cases m with
  | closes => exact absurd rfl unclosed
  | requested | reads | rejects | accepts | refuses | counts | receives => exact isOpen

/-- Once every request is answered and none comes, nothing is left but to receive. -/
theorem Move.of_isIdle {t u : Intake} {event : Event} {acceptance : Option Acceptance}
    (m : Move t event u acceptance) (idle : t.isIdle = true)
    (unrequested : ∀ body, event ≠ .request body) :
    u.handlers = t.handlers ∧ u.accepted = t.accepted ∧ (event = .receive ∨ event = .close) := by
  have answered : ∀ {index : Nat} {handler : Handler}, t.handlers[index]? = some handler →
      handler.status?.isSome = true := by
    intro index handler hhandler
    exact List.all_eq_true.mp idle handler (List.mem_of_getElem? hhandler)
  cases m with
  | requested => exact absurd rfl (unrequested _)
  | reads handler | rejects handler | accepts handler | refuses handler | counts handler =>
    cases answered handler
  | receives => exact ⟨rfl, rfl, .inl rfl⟩
  | closes => exact ⟨rfl, rfl, .inr rfl⟩

/-! ## What the steps conserve -/

/-- No batch of a request was taken. -/
def Untaken (taken : List Acceptance) (index : Nat) : Prop := ∀ a ∈ taken, a.index ≠ index

/-- What a handler's place says about the body of its request and its batch. -/
def Fits (taken : List Acceptance) (index : Nat) (body : List UInt8) : Handler → Prop
  | .toRead b => b = body ∧ Untaken taken index
  | .toOffer batch => Batch.ofOctets body = .ok batch ∧ Untaken taken index
  | .toCount => ¬ Untaken taken index
  | .answered status => status = 200 ↔ ¬ Untaken taken index

/-- How an intake stands to the batches its channel took and the bodies of its
requests. -/
structure Conserves (taken : List Acceptance) (bodies : List (List UInt8)) (t : Intake) : Prop where
  accepted : t.accepted = taken.map Acceptance.batch
  conserved : t.channel.isOpen = true → t.accepted = t.received ++ t.channel.queue
  once : (taken.map Acceptance.index).Nodup
  requests : t.handlers.length = bodies.length
  decoded : ∀ a ∈ taken, ∃ body, bodies[a.index]? = some body ∧ Batch.ofOctets body = .ok a.batch
  fits : ∀ i (handler : Handler) body, t.handlers[i]? = some handler → bodies[i]? = some body →
    Fits taken i body handler

section

variable {taken : List Acceptance} {index i : Nat} {batch : Batch} {body : List UInt8}
  {handler : Handler}

theorem untaken_append_of_ne (other : index ≠ i) :
    Untaken (taken ++ [⟨index, batch⟩]) i ↔ Untaken taken i := by
  unfold Untaken
  rw [List.forall_mem_append, List.forall_mem_singleton]
  exact and_iff_left other

theorem not_untaken_append_self : ¬ Untaken (taken ++ [⟨index, batch⟩]) index := by
  intro h
  exact h ⟨index, batch⟩ (by simp) rfl

/-- A further acceptance says nothing about the handlers of other requests. -/
theorem Fits.append (h : Fits taken i body handler) (other : index ≠ i) :
    Fits (taken ++ [⟨index, batch⟩]) i body handler := by
  cases handler with
  | toRead | toOffer | toCount | answered => simpa only [Fits, untaken_append_of_ne other] using h

end

namespace Conserves

variable {taken : List Acceptance} {bodies : List (List UInt8)} {t u : Intake} {index : Nat}
  {old next : Handler}

theorem new (capacity : Nat) : Conserves [] [] { channel := { capacity } } where
  accepted := rfl
  conserved := fun _ => rfl
  once := List.nodup_nil
  requests := rfl
  decoded := by simp
  fits := by simp

/-- The body of the request that a handler is for. -/
theorem exists_body (h : Conserves taken bodies t) (hold : t.handlers[index]? = some old) :
    ∃ body, bodies[index]? = some body ∧ Fits taken index body old := by
  have hlt : index < bodies.length := by
    have := (List.getElem?_eq_some_iff.mp hold).1
    rwa [h.requests] at this
  have hbody : bodies[index]? = some bodies[index] := List.getElem?_eq_getElem hlt
  exact ⟨bodies[index], hbody, h.fits index old _ hold hbody⟩

theorem lt_of_mem (h : Conserves taken bodies t) {a : Acceptance} (ha : a ∈ taken) :
    a.index < bodies.length := by
  obtain ⟨body, hbody, -⟩ := h.decoded a ha
  exact (List.getElem?_eq_some_iff.mp hbody).1

/-- A handler goes on while no batch is taken. -/
theorem fits_set (h : Conserves taken bodies t) (hold : t.handlers[index]? = some old)
    (hnext : ∀ body, Fits taken index body old → Fits taken index body next) :
    ∀ i (handler : Handler) body, (t.handlers.set index next)[i]? = some handler →
      bodies[i]? = some body → Fits taken i body handler := by
  intro i handler body hi hbody
  by_cases heq : index = i
  · subst heq
    rw [List.getElem?_set_self (List.getElem?_eq_some_iff.mp hold).1] at hi
    cases hi
    exact hnext body (h.fits _ _ _ hold hbody)
  · rw [List.getElem?_set_ne heq] at hi
    exact h.fits i handler body hi hbody

/-- Nothing else changes when a handler goes on while no batch is taken. -/
theorem handle (h : Conserves taken bodies t) (hold : t.handlers[index]? = some old)
    (hnext : ∀ body, Fits taken index body old → Fits taken index body next) :
    Conserves taken bodies { t with handlers := t.handlers.set index next } :=
  ⟨h.accepted, h.conserved, h.once, by simpa using h.requests, h.decoded, h.fits_set hold hnext⟩

/-- What is counted is conserved apart. -/
theorem count (h : Conserves taken bodies t) (counter : Nat) :
    Conserves taken bodies { t with counter } :=
  ⟨h.accepted, h.conserved, h.once, h.requests, h.decoded, h.fits⟩

/-- A new request has a handler that has taken nothing yet. -/
theorem request (h : Conserves taken bodies t) (body : List UInt8) :
    Conserves taken (bodies ++ [body]) { t with handlers := t.handlers ++ [.toRead body] } := by
  refine ⟨h.accepted, h.conserved, h.once, by simp [h.requests], ?_, ?_⟩
  · intro a ha
    obtain ⟨b, hb, hvalid⟩ := h.decoded a ha
    exact ⟨b, by rw [List.getElem?_append_left (h.lt_of_mem ha)]; exact hb, hvalid⟩
  · intro i handler b hi hb
    by_cases hlt : i < bodies.length
    · rw [List.getElem?_append_left (by rw [h.requests]; exact hlt)] at hi
      rw [List.getElem?_append_left hlt] at hb
      exact h.fits i handler b hi hb
    · have hlen : i = bodies.length := by
        have hi := (List.getElem?_eq_some_iff.mp hb).1
        rw [List.length_append, List.length_singleton] at hi
        omega
      subst hlen
      rw [List.getElem?_concat_length] at hb
      rw [← h.requests, List.getElem?_concat_length] at hi
      cases hb
      cases hi
      refine ⟨rfl, ?_⟩
      intro a ha
      exact Nat.ne_of_lt (h.lt_of_mem ha)

/-- The channel takes the batch that a handler offers. -/
theorem accept (h : Conserves taken bodies t) {batch : Batch}
    (hold : t.handlers[index]? = some (.toOffer batch)) (isOpen : t.channel.isOpen = true) :
    Conserves (taken ++ [⟨index, batch⟩]) bodies { t with
      channel := { t.channel with queue := t.channel.queue ++ [batch] },
      accepted := t.accepted ++ [batch], handlers := t.handlers.set index .toCount } := by
  obtain ⟨body, hbody, hvalid, untaken⟩ := h.exists_body hold
  refine ⟨by simp [h.accepted], ?_, ?_, by simp [h.requests], ?_, ?_⟩
  · intro _
    simp [h.conserved isOpen]
  · -- The handler offers its batch, so no batch of its request was taken before.
    rw [List.map_append, List.nodup_append]
    refine ⟨h.once, by simp, ?_⟩
    intro i hi j hj heq
    obtain ⟨a, ha, rfl⟩ := List.mem_map.mp hi
    rw [List.map_singleton, List.mem_singleton] at hj
    exact untaken a ha (heq.trans hj)
  · rw [List.forall_mem_append, List.forall_mem_singleton]
    exact ⟨h.decoded, body, hbody, hvalid⟩
  · intro i handler b hi hb
    by_cases heq : index = i
    · subst heq
      rw [List.getElem?_set_self (List.getElem?_eq_some_iff.mp hold).1] at hi
      cases hi
      exact not_untaken_append_self
    · rw [List.getElem?_set_ne heq] at hi
      exact (h.fits i handler b hi hb).append heq

theorem move (h : Conserves taken bodies t) {event : Event} {acceptance : Option Acceptance}
    (m : Move t event u acceptance) :
    Conserves (taken ++ acceptance.toList) (bodies ++ event.body?.toList) u := by
  cases m with
  | requested => simpa [Event.body?] using h.request _
  | accepts handler isOpen => simpa [Event.body?] using h.accept handler isOpen
  | @reads index body batch handler valid =>
    have goesOn : ∀ b, Fits taken index b (.toRead body) → Fits taken index b (.toOffer batch) := by
      rintro b ⟨rfl, untaken⟩
      exact ⟨valid, untaken⟩
    simpa [Event.body?] using h.handle handler goesOn
  | @rejects index body fault handler =>
    have goesOn : ∀ b, Fits taken index b (.toRead body) → Fits taken index b (.answered 400) := by
      rintro b ⟨-, untaken⟩
      simpa [Fits] using untaken
    simpa [Event.body?] using h.handle handler goesOn
  | @refuses index batch refusal handler =>
    have goesOn : ∀ b, Fits taken index b (.toOffer batch) →
        Fits taken index b (.answered (statusOf refusal)) := by
      rintro b ⟨-, untaken⟩
      cases refusal with
      | full | closed => simpa [Fits, statusOf] using untaken
    simpa [Event.body?] using h.handle handler goesOn
  | @counts index handler =>
    have goesOn : ∀ b, Fits taken index b .toCount → Fits taken index b (.answered 200) := by
      intro b was
      simpa [Fits] using was
    simpa [Event.body?] using (h.handle handler goesOn).count (t.counter + 1)
  | @receives batch rest held =>
    have conserved : t.channel.isOpen = true → t.accepted = t.received ++ [batch] ++ rest := by
      intro isOpen
      rw [h.conserved isOpen, held, List.append_assoc, List.singleton_append]
    simp only [Option.toList_none, List.append_nil, Event.body?]
    exact ⟨h.accepted, conserved, h.once, h.requests, h.decoded, h.fits⟩
  | closes =>
    have conserved : t.channel.close.isOpen = true →
        t.accepted = t.received ++ t.channel.queue := by
      intro isOpen
      cases isOpen
    simp only [Option.toList_none, List.append_nil, Event.body?]
    exact ⟨h.accepted, conserved, h.once, h.requests, h.decoded, h.fits⟩

/-- The batch of a request was taken if and only if the request is counted next or
was answered with 200. -/
theorem mem_indices_iff (h : Conserves taken bodies t) :
    index ∈ taken.map Acceptance.index ↔
      t.handlers[index]? = some .toCount ∨ t.handlers[index]? = some (.answered 200) := by
  have htaken : index ∈ taken.map Acceptance.index ↔ ¬ Untaken taken index := by
    simp [Untaken]
  rw [htaken]
  constructor
  · intro was
    -- The request has a handler, whose place tells whether its batch was taken.
    have hlt : index < t.handlers.length := by
      obtain ⟨a, ha, rfl⟩ := List.mem_map.mp (htaken.mpr was)
      rw [h.requests]
      exact h.lt_of_mem ha
    have hold : t.handlers[index]? = some t.handlers[index] := List.getElem?_eq_getElem hlt
    obtain ⟨body, -, fits⟩ := h.exists_body hold
    rw [hold]
    cases hhandler : t.handlers[index] with
    | toRead b =>
      rw [hhandler] at fits
      exact absurd fits.2 was
    | toOffer batch =>
      rw [hhandler] at fits
      exact absurd fits.2 was
    | toCount => exact .inl rfl
    | answered status =>
      rw [hhandler] at fits
      exact .inr (by rw [fits.mpr was])
  · rintro (hold | hold)
    · obtain ⟨body, -, fits⟩ := h.exists_body hold
      exact fits
    · obtain ⟨body, -, fits⟩ := h.exists_body hold
      exact fits.mp rfl

end Conserves

/-! ## Over a trace -/

variable {past : List (Transition Intake Event)} {t : Intake} {capacity : Nat}

theorem acceptances_append (m : Transition Intake Event) :
    acceptances (past ++ [m]) = acceptances past ++ (m.before.acceptance? m.label).toList :=
  filterMap_snoc ..

theorem bodies_append (m : Transition Intake Event) :
    bodies (past ++ [m]) = bodies past ++ m.label.body?.toList :=
  filterMap_snoc ..

/-- Whatever the steps and their order, what the channel took is conserved. -/
theorem conserves (h : Trace step { channel := { capacity } } past t) :
    Conserves (acceptances past) (bodies past) t := by
  induction h with
  | start => exact .new capacity
  | next _ taken ih =>
    rw [acceptances_append, bodies_append]
    exact ih.move (move_of_step taken)

/-- The channel is open as long as nobody closes it. -/
theorem isOpen_of_unclosed (h : Trace step { channel := { capacity } } past t)
    (unclosed : ∀ m ∈ past, m.label ≠ .close) : t.channel.isOpen = true := by
  induction h with
  | start => rfl
  | @next past t u event before taken ih =>
    rw [List.forall_mem_append, List.forall_mem_singleton] at unclosed
    exact (move_of_step taken).isOpen unclosed.2 (ih unclosed.1)

end TelemetrySidecar.Intake
