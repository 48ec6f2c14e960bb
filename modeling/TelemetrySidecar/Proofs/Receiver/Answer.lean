import Mathlib.Data.List.Perm.Subperm
import TelemetrySidecar.Proofs.Receiver.Acceptance
import TelemetrySidecar.Proofs.Telemetry.Batch

/-
  What requests are answered

  The handlers of all requests share one channel and one counter, and the consumer
  takes from the channel or closes it between any two of their steps. What a handler
  does next is fixed by its place, by what its body describes and by the channel at
  that moment (`Proceeds`).

  What is proved: each step of a handler is one of these (`Move.proceeds`), so its
  answer comes from one moment and stays (`answered_iff_proceeds`), and it comes after
  at most three steps (`handled_le_rank`). The counter counts the handlers that were
  answered with 200 (`counts`). Together: whatever the order of the steps, no batch is
  lost or made up, the channel keeps its bound, and each request gets the one answer
  that is due to it (`every_request_accounted`).
-/

namespace TelemetrySidecar

namespace Channel

variable {α : Type} {c : Channel α} {a : α}

/-- As much is held as the channel can hold. -/
def IsFull (c : Channel α) : Prop := c.capacity ≤ c.queue.length

instance : Decidable c.IsFull := inferInstanceAs (Decidable (c.capacity ≤ c.queue.length))

theorem offer_eq_closed_iff : c.offer a = .error .closed ↔ c.isOpen = false := by
  unfold offer
  cases c.isOpen with
  | false => simp
  | true =>
    simp only [Bool.not_true, Bool.false_eq_true, if_false, reduceCtorEq, iff_false]
    split <;> simp

theorem offer_eq_full_iff : c.offer a = .error .full ↔ c.isOpen = true ∧ c.IsFull := by
  unfold offer IsFull
  cases c.isOpen with
  | false => simp
  | true =>
    simp only [Bool.not_true, Bool.false_eq_true, if_false, true_and]
    split
    · rename_i full
      exact iff_of_true rfl full
    · rename_i room
      exact iff_of_false (by simp) room

end Channel

/-- How many steps a handler has taken at most. -/
def Handler.rank : Handler → Nat
  | .toRead _ => 0
  | .toOffer _ => 1
  | .toCount => 2
  | .answered _ => Intake.maxSteps

theorem Handler.rank_le (h : Handler) : h.rank ≤ Intake.maxSteps := by
  cases h with
  | toRead | toOffer | toCount | answered => simp [rank, Intake.maxSteps]

namespace Intake

/-! ## How a handler goes on -/

/-- What a handler does next beside a channel. -/
inductive Proceeds (c : Channel Batch) : Handler → Handler → Prop where
  | reads {body : List UInt8} {batch : Batch} (described : batch.DescribedBy body) :
      Proceeds c (.toRead body) (.toOffer batch)
  | rejects {body : List UInt8} (undescribed : ∀ batch : Batch, ¬ batch.DescribedBy body) :
      Proceeds c (.toRead body) (.answered 400)
  | accepts {batch : Batch} (isOpen : c.isOpen = true) (room : ¬ c.IsFull) :
      Proceeds c (.toOffer batch) .toCount
  | overflows {batch : Batch} (isOpen : c.isOpen = true) (full : c.IsFull) :
      Proceeds c (.toOffer batch) (.answered 503)
  | misses {batch : Batch} (closed : c.isOpen = false) :
      Proceeds c (.toOffer batch) (.answered 500)
  | counts : Proceeds c .toCount (.answered 200)

/-- What a handler does next is fixed by its place and by the channel. -/
theorem Proceeds.unique {c : Channel Batch} {old next next' : Handler} (h : Proceeds c old next)
    (h' : Proceeds c old next') : next = next' := by
  cases h with
  | reads described =>
    cases h' with
    | reads described' =>
      have same := Batch.ofOctets_eq_ok_iff.mpr described
      rw [Batch.ofOctets_eq_ok_iff.mpr described'] at same
      cases same
      rfl
    | rejects undescribed => exact absurd described (undescribed _)
  | rejects undescribed =>
    cases h' with
    | reads described => exact absurd described (undescribed _)
    | rejects => rfl
  | accepts isOpen room =>
    cases h' with
    | accepts => rfl
    | overflows _ full => exact absurd full room
    | misses closed => cases isOpen.symm.trans closed
  | overflows isOpen full =>
    cases h' with
    | accepts _ room => exact absurd full room
    | overflows => rfl
    | misses closed => cases isOpen.symm.trans closed
  | misses closed =>
    cases h' with
    | accepts isOpen | overflows isOpen => cases isOpen.symm.trans closed
    | misses => rfl
  | counts =>
    cases h' with
    | counts => rfl

section

variable {t u : Intake} {event : Event} {acceptance : Option Acceptance} {index i : Nat}
  {handler old next : Handler} {status : Nat}

/-- A step of a handler is what it does next, and one that answers with anything but
200 changes nothing else. -/
theorem Move.proceeds (m : Move t (.handle index) u acceptance) :
    ∃ old next, t.handlers[index]? = some old ∧ Proceeds t.channel old next ∧
      u.handlers = t.handlers.set index next ∧
      ∀ status, next = .answered status → status ≠ 200 →
        u = { t with handlers := t.handlers.set index next } := by
  cases m with
  | reads handler valid =>
    exact ⟨_, _, handler, .reads (Batch.ofOctets_eq_ok_iff.mp valid), rfl, fun _ _ _ => rfl⟩
  | rejects handler invalid =>
    exact ⟨_, _, handler, .rejects (Batch.ofOctets_eq_error_iff.mp ⟨_, invalid⟩), rfl,
      fun _ _ _ => rfl⟩
  | accepts handler isOpen room =>
    exact ⟨_, _, handler, .accepts isOpen (Nat.not_le_of_lt room), rfl, by simp⟩
  | @refuses _ batch refusal handler refused =>
    cases refusal with
    | full =>
      obtain ⟨isOpen, full⟩ := Channel.offer_eq_full_iff.mp refused
      exact ⟨_, _, handler, .overflows isOpen full, rfl, fun _ _ _ => rfl⟩
    | closed =>
      have closed := Channel.offer_eq_closed_iff.mp refused
      exact ⟨_, _, handler, .misses closed, rfl, fun _ _ _ => rfl⟩
  | counts handler => exact ⟨_, _, handler, .counts, rfl, by simp⟩

/-- What happens elsewhere leaves a handler where it is. -/
theorem Move.handler_of_ne (m : Move t event u acceptance) (other : event ≠ .handle index)
    (hold : t.handlers[index]? = some handler) : u.handlers[index]? = some handler := by
  have hlt : index < t.handlers.length := (List.getElem?_eq_some_iff.mp hold).1
  cases m with
  | requested =>
    rw [List.getElem?_append_left hlt]
    exact hold
  | @reads j | @rejects j | @accepts j | @refuses j | @counts j =>
    have apart : j ≠ index := fun same => other (same ▸ rfl)
    rw [List.getElem?_set_ne apart]
    exact hold
  | receives | closes => exact hold

/-- A handler that comes about reads first. -/
theorem Move.handler_of_none (m : Move t event u acceptance) (hnone : t.handlers[index]? = none)
    (hnew : u.handlers[index]? = some handler) : ∃ body, handler = .toRead body := by
  have hle : t.handlers.length ≤ index := List.getElem?_eq_none_iff.mp hnone
  cases m with
  | @requested body =>
    have hlt := (List.getElem?_eq_some_iff.mp hnew).1
    rw [List.length_append, List.length_singleton] at hlt
    have last : index = t.handlers.length := by omega
    subst last
    rw [List.getElem?_concat_length] at hnew
    exact ⟨body, (Option.some.inj hnew).symm⟩
  | reads | rejects | accepts | refuses | counts =>
    have hlt := (List.getElem?_eq_some_iff.mp hnew).1
    rw [List.length_set] at hlt
    omega
  | receives | closes =>
    rw [hnone] at hnew
    cases hnew

/-- An answer is final. -/
theorem Move.answered (m : Move t event u acceptance)
    (hold : t.handlers[index]? = some (.answered status)) :
    u.handlers[index]? = some (.answered status) := by
  by_cases same : event = .handle index
  · subst same
    obtain ⟨old, next, hhandler, proceeds, -⟩ := m.proceeds
    cases hold.symm.trans hhandler
    cases proceeds
  · exact m.handler_of_ne same hold

/-- Only its own step answers a request. -/
theorem Move.eq_handle_of_answers (m : Move t event u acceptance)
    (before : t.handlers[index]? ≠ some (.answered status))
    (after : u.handlers[index]? = some (.answered status)) : event = .handle index := by
  by_contra other
  cases hold : t.handlers[index]? with
  | none =>
    obtain ⟨body, hread⟩ := m.handler_of_none hold after
    cases hread
  | some handler =>
    have kept := m.handler_of_ne other hold
    rw [after] at kept
    exact before (hold.trans kept.symm)

/-- A handler that has not answered can go on. -/
theorem exists_answer_of_step_eq_none (hold : t.handlers[index]? = some handler)
    (stuck : t.step (.handle index) = none) : ∃ status, handler = .answered status := by
  rw [step, hold, Option.bind_some] at stuck
  cases handler with
  | toRead body =>
    simp only [advance] at stuck
    split at stuck <;> cases stuck
  | toOffer batch =>
    simp only [advance] at stuck
    split at stuck <;> cases stuck
  | toCount => cases stuck
  | answered status => exact ⟨status, rfl⟩

end

/-! ## How many steps a handler takes -/

theorem Proceeds.rank_lt {c : Channel Batch} {old next : Handler} (h : Proceeds c old next) :
    old.rank < next.rank := by
  cases h with
  | reads | rejects | accepts | overflows | misses | counts => simp [Handler.rank, maxSteps]

/-- Whether a step is one of a request's handler. -/
def Event.isHandle (index : Nat) : Event → Bool
  | .handle i => i == index
  | _ => false

theorem Event.isHandle_iff {index : Nat} {event : Event} :
    event.isHandle index = true ↔ event = .handle index := by
  cases event with
  | handle i => simp [isHandle]
  | request | receive | close => simp [isHandle]

/-- How many steps a request's handler has taken. -/
def handled (past : List (Transition Intake Event)) (index : Nat) : Nat :=
  past.countP fun m => m.label.isHandle index

/-! ## What is counted -/

/-- The request that is counted in a step. -/
def counting? (t : Intake) : Event → Option Nat
  | .handle index =>
    match t.handlers[index]? with
    | some .toCount => some index
    | _ => none
  | _ => none

/-- The requests whose handlers have counted, in order. -/
def countings (past : List (Transition Intake Event)) : List Nat :=
  past.filterMap fun m => m.before.counting? m.label

theorem count_statuses (t : Intake) (status : Nat) :
    t.statuses.count status = t.handlers.countP fun h => h.status? == some status :=
  List.count_filterMap

/-- How an intake stands to the requests that were counted. -/
structure Counts (counted : List Nat) (t : Intake) : Prop where
  counter : t.counter = counted.length
  once : counted.Nodup
  mem_iff : ∀ index, index ∈ counted ↔ t.handlers[index]? = some (.answered 200)
  statuses : counted.length = t.statuses.count 200

namespace Counts

variable {counted : List Nat} {t u : Intake} {index : Nat} {old next : Handler}

theorem new (capacity : Nat) : Counts [] { channel := { capacity } } where
  counter := rfl
  once := List.nodup_nil
  mem_iff := by simp
  statuses := rfl

/-- A handler goes on that neither was answered with 200 nor is now. -/
theorem handle (h : Counts counted t) (hold : t.handlers[index]? = some old)
    (was : old.status? ≠ some 200) (is : next.status? ≠ some 200)
    (hu : u.handlers = t.handlers.set index next) (counter : u.counter = t.counter) :
    Counts counted u := by
  obtain ⟨hlt, hget⟩ := List.getElem?_eq_some_iff.mp hold
  refine ⟨counter.trans h.counter, h.once, ?_, ?_⟩
  · intro i
    rw [h.mem_iff, hu]
    by_cases same : index = i
    · subst same
      rw [List.getElem?_set_self hlt, hold]
      constructor
      · intro heq
        cases heq
        exact absurd rfl was
      · intro heq
        cases heq
        exact absurd rfl is
    · rw [List.getElem?_set_ne same]
  · rw [h.statuses, count_statuses, count_statuses, hu, List.countP_set hlt, hget]
    simp [was, is]

/-- A handler counts its batch, and answers. -/
theorem count (h : Counts counted t) (hold : t.handlers[index]? = some .toCount) :
    Counts (counted ++ [index]) { t with
      counter := t.counter + 1, handlers := t.handlers.set index (.answered 200) } := by
  obtain ⟨hlt, hget⟩ := List.getElem?_eq_some_iff.mp hold
  have uncounted : index ∉ counted := by
    rw [h.mem_iff, hold]
    simp
  refine ⟨?_, ?_, ?_, ?_⟩
  · rw [List.length_append, List.length_singleton, h.counter]
  · rw [List.nodup_append]
    refine ⟨h.once, by simp, ?_⟩
    intro i hi j hj heq
    rw [List.mem_singleton] at hj
    exact uncounted (hj ▸ heq ▸ hi)
  · intro i
    rw [List.mem_append, List.mem_singleton, h.mem_iff]
    by_cases same : index = i
    · subst same
      simp [List.getElem?_set_self hlt]
    · simp [List.getElem?_set_ne same, Ne.symm same]
  · rw [List.length_append, List.length_singleton, h.statuses, count_statuses, count_statuses,
      List.countP_set hlt, hget]
    simp [Handler.status?]

theorem move (h : Counts counted t) {event : Event} {acceptance : Option Acceptance}
    (m : Move t event u acceptance) : Counts (counted ++ (t.counting? event).toList) u := by
  cases m with
  | @requested body =>
    simp only [counting?, Option.toList_none, List.append_nil]
    refine ⟨h.counter, h.once, ?_, ?_⟩
    · intro i
      rw [h.mem_iff]
      have arrives : Move t (.request body) _ none := .requested
      constructor
      · exact arrives.answered
      · intro after
        by_contra before
        cases arrives.eq_handle_of_answers before after
    · rw [h.statuses, count_statuses, count_statuses, List.countP_append]
      simp [Handler.status?]
  | reads handler | rejects handler | accepts handler =>
    simp only [counting?, handler, Option.toList_none, List.append_nil]
    exact h.handle handler (by simp [Handler.status?]) (by simp [Handler.status?]) rfl rfl
  | @refuses _ _ refusal handler =>
    simp only [counting?, handler, Option.toList_none, List.append_nil]
    refine h.handle handler (by simp [Handler.status?]) ?_ rfl rfl
    cases refusal with
    | full | closed => simp [Handler.status?, statusOf]
  | counts handler =>
    simp only [counting?, handler, Option.toList_some]
    exact h.count handler
  | receives | closes =>
    simp only [counting?, Option.toList_none, List.append_nil]
    exact ⟨h.counter, h.once, h.mem_iff, h.statuses⟩

end Counts

/-! ## Over a trace -/

variable {past : List (Transition Intake Event)} {t : Intake} {capacity index status : Nat}

theorem counts (h : Trace step { channel := { capacity } } past t) : Counts (countings past) t := by
  induction h with
  | start => exact .new capacity
  | next _ taken ih =>
    rw [countings, filterMap_snoc]
    exact ih.move (move_of_step taken)

/-- The channel keeps its bound. -/
theorem bounded (h : Trace step { channel := { capacity } } past t) :
    t.channel.capacity = capacity ∧ t.channel.queue.length ≤ capacity := by
  induction h with
  | start => exact ⟨rfl, Nat.zero_le _⟩
  | @next past t u event _ taken ih =>
    obtain ⟨same, bound⟩ := ih
    have m := move_of_step taken
    generalize t.acceptance? event = acceptance at m
    cases m with
    | accepts _ _ room =>
      refine ⟨same, ?_⟩
      rw [same] at room
      rw [List.length_append, List.length_singleton]
      exact room
    | receives held =>
      rw [held, List.length_cons] at bound
      exact ⟨same, Nat.le_of_succ_le bound⟩
    | requested | reads | rejects | refuses | counts | closes => exact ⟨same, bound⟩

/-- A request is answered at one moment, by a step of its own handler. -/
theorem answered_iff (h : Trace step { channel := { capacity } } past t) :
    t.handlers[index]? = some (.answered status) ↔
      ∃ m ∈ past, m.label = .handle index ∧ m.after.handlers[index]? = some (.answered status) := by
  have move : ∀ m ∈ past, Move m.before m.label m.after (m.before.acceptance? m.label) := by
    intro m hm
    obtain ⟨earlier, later, -, -, taken⟩ := h.split hm
    exact move_of_step taken
  constructor
  · intro answered
    obtain ⟨m, hm, before, after⟩ := h.exists_change
      (P := fun t => t.handlers[index]? = some (.answered status)) (by simp) answered
    exact ⟨m, hm, (move m hm).eq_handle_of_answers before after, after⟩
  · rintro ⟨m, hm, -, after⟩
    exact h.persists (P := fun t => t.handlers[index]? = some (.answered status))
      (fun m hm => (move m hm).answered) m hm after

/-- A handler has taken no more steps than its place allows. -/
theorem handled_le_rank (h : Trace step { channel := { capacity } } past t) (index : Nat) :
    handled past index ≤ (t.handlers[index]?).elim 0 Handler.rank := by
  induction h with
  | start => simp [handled]
  | @next past t u event before taken ih =>
    have m := move_of_step taken
    rw [handled, List.countP_append, List.countP_singleton]
    by_cases own : event = .handle index
    · subst own
      obtain ⟨old, next, hold, proceeds, hu, -⟩ := m.proceeds
      have hlt := (List.getElem?_eq_some_iff.mp hold).1
      have further : old.rank < next.rank := proceeds.rank_lt
      rw [hold, Option.elim_some] at ih
      rw [hu, List.getElem?_set_self hlt, Option.elim_some, if_pos (Event.isHandle_iff.mpr rfl)]
      exact Nat.le_trans (Nat.succ_le_succ ih) further
    · have other : event.isHandle index = false := by
        rw [← Bool.not_eq_true, Event.isHandle_iff]
        exact own
      rw [other, if_neg (by simp), Nat.add_zero]
      cases hold : t.handlers[index]? with
      | none =>
        rw [hold] at ih
        exact Nat.le_trans ih (Nat.zero_le _)
      | some handler =>
        rw [hold] at ih
        rw [m.handler_of_ne own hold]
        exact ih

theorem body_of_earlier {earlier : List (Transition Intake Event)} {body : List UInt8}
    (hbody : (bodies earlier)[index]? = some body) (later : List (Transition Intake Event)) :
    (bodies (earlier ++ later))[index]? = some body := by
  have hlt : index < (bodies earlier).length := (List.getElem?_eq_some_iff.mp hbody).1
  rw [bodies, List.filterMap_append]
  exact (List.getElem?_append_left hlt).trans hbody

/-- What a handler does in its own step. -/
theorem exists_proceeds (h : Trace step { channel := { capacity } } past t)
    {m : Transition Intake Event} (hm : m ∈ past) (own : m.label = .handle index) :
    ∃ old next, m.before.handlers[index]? = some old ∧ Proceeds m.before.channel old next ∧
      m.after.handlers[index]? = some next ∧
      ∀ status, next = .answered status → status ≠ 200 →
        m.after = { m.before with handlers := m.before.handlers.set index next } := by
  obtain ⟨earlier, later, -, -, taken⟩ := h.split hm
  rw [own] at taken
  obtain ⟨old, next, hold, proceeds, hafter, unchanged⟩ := (move_of_step taken).proceeds
  refine ⟨old, next, hold, proceeds, ?_, unchanged⟩
  rw [hafter, List.getElem?_set_self (List.getElem?_eq_some_iff.mp hold).1]

/-- A request is answered in that step of its handler whose outcome is the answer. -/
theorem answered_iff_proceeds (h : Trace step { channel := { capacity } } past t) :
    t.handlers[index]? = some (.answered status) ↔
      ∃ m ∈ past, m.label = .handle index ∧ ∃ old, m.before.handlers[index]? = some old ∧
        Proceeds m.before.channel old (.answered status) := by
  rw [answered_iff h]
  constructor
  · rintro ⟨m, hm, own, after⟩
    obtain ⟨old, next, hold, proceeds, hnext, -⟩ := exists_proceeds h hm own
    cases hnext.symm.trans after
    exact ⟨m, hm, own, old, hold, proceeds⟩
  · rintro ⟨m, hm, own, old, hold, proceeds⟩
    obtain ⟨old', next, hold', proceeds', hnext, -⟩ := exists_proceeds h hm own
    cases hold.symm.trans hold'
    rw [proceeds'.unique proceeds] at hnext
    exact ⟨m, hm, own, hnext⟩

/-- A handler reads the body of its own request, and past that the body describes a
batch. -/
theorem reads_own_body (h : Trace step { channel := { capacity } } past t)
    {m : Transition Intake Event} (hm : m ∈ past) (own : m.label = .handle index)
    {body : List UInt8} (hbody : (bodies past)[index]? = some body) {old : Handler}
    (hold : m.before.handlers[index]? = some old) :
    old = .toRead body ∨ (∀ b, old ≠ .toRead b) ∧ ∃ batch : Batch, batch.DescribedBy body := by
  obtain ⟨earlier, later, rfl, before, taken⟩ := h.split hm
  have conserves := conserves before
  have same : ∀ {b}, (bodies earlier)[index]? = some b → b = body := by
    intro b hb
    exact Option.some.inj ((body_of_earlier hb (m :: later)).symm.trans hbody)
  obtain ⟨b, hb, fits⟩ := conserves.exists_body hold
  cases same hb
  cases old with
  | toRead b' => exact .inl (by rw [fits.1])
  | toOffer batch => exact .inr ⟨by simp, batch, Batch.ofOctets_eq_ok_iff.mp fits.1⟩
  | toCount =>
    -- Its batch was taken, so it was read from the body.
    simp only [Fits, Untaken, not_forall, not_not] at fits
    obtain ⟨a, ha, hindex⟩ := fits
    obtain ⟨b', hb', valid⟩ := conserves.decoded a ha
    rw [hindex] at hb'
    cases same hb'
    exact .inr ⟨by simp, a.batch, Batch.ofOctets_eq_ok_iff.mp valid⟩
  | answered status =>
    rw [own, step, hold, Option.bind_some] at taken
    cases taken

/-- The handler of a request offers its batch in a step. -/
structure Offers (m : Transition Intake Event) (index : Nat) : Prop where
  label : m.label = .handle index
  handler : ∃ batch, m.before.handlers[index]? = some (.toOffer batch)

/-- What becomes of one request with a body. -/
structure Answers (past : List (Transition Intake Event)) (t : Intake) (index : Nat)
    (body : List UInt8) : Prop where
  /-- A handler that cannot go on has answered. -/
  answered : t.step (.handle index) = none → ∃ status, t.handlers[index]? = some (.answered status)
  soon : handled past index ≤ maxSteps
  statuses : ∀ status, t.handlers[index]? = some (.answered status) →
    status ∈ [400, 503, 500, 200]
  /-- What describes no batch, in any of its items, is refused when it is read. -/
  ill : t.handlers[index]? = some (.answered 400) ↔
    (∀ batch : Batch, ¬ batch.DescribedBy body) ∧ 0 < handled past index
  offered : (∃ m ∈ past, Offers m index) → ∃ batch : Batch, batch.DescribedBy body
  full : t.handlers[index]? = some (.answered 503) ↔
    ∃ m ∈ past, Offers m index ∧ m.before.channel.isOpen = true ∧ m.before.channel.IsFull
  /-- A closed channel is closed however full it is. -/
  closed : t.handlers[index]? = some (.answered 500) ↔
    ∃ m ∈ past, Offers m index ∧ m.before.channel.isOpen = false
  taken : t.handlers[index]? = some (.answered 200) ↔ index ∈ countings past
  /-- An answer other than 200 changes nothing but the request's own handler. -/
  unchanged : ∀ m ∈ past, m.label = .handle index → ∀ status,
    m.after.handlers[index]? = some (.answered status) → status ≠ 200 →
      m.after = { m.before with handlers := m.before.handlers.set index (.answered status) }

theorem answers (h : Trace step { channel := { capacity } } past t) {body : List UInt8}
    (hbody : (bodies past)[index]? = some body) : Answers past t index body where
  answered := by
    intro stuck
    have hlt : index < t.handlers.length := by
      rw [(conserves h).requests]
      exact (List.getElem?_eq_some_iff.mp hbody).1
    have hold := List.getElem?_eq_getElem hlt
    obtain ⟨status, hanswer⟩ := exists_answer_of_step_eq_none hold stuck
    exact ⟨status, hold.trans (congrArg some hanswer)⟩
  soon := by
    refine Nat.le_trans (handled_le_rank h index) ?_
    cases t.handlers[index]? with
    | none => exact Nat.zero_le _
    | some handler => exact handler.rank_le
  statuses := by
    intro status hanswer
    obtain ⟨m, hm, own, old, -, proceeds⟩ := (answered_iff_proceeds h).mp hanswer
    cases proceeds with
    | rejects | overflows | misses | counts => simp
  ill := by
    rw [answered_iff_proceeds h]
    constructor
    · rintro ⟨m, hm, own, old, hold, proceeds⟩
      have stepped : 0 < handled past index :=
        List.countP_pos_iff.mpr ⟨m, hm, Event.isHandle_iff.mpr own⟩
      cases proceeds with
      | rejects undescribed =>
        rcases reads_own_body h hm own hbody hold with hread | ⟨unread, -⟩
        · cases hread
          exact ⟨undescribed, stepped⟩
        · exact absurd rfl (unread _)
    · rintro ⟨undescribed, stepped⟩
      obtain ⟨m, hm, own⟩ := List.countP_pos_iff.mp stepped
      rw [Event.isHandle_iff] at own
      obtain ⟨old, next, hold, proceeds, -⟩ := exists_proceeds h hm own
      rcases reads_own_body h hm own hbody hold with rfl | ⟨-, batch, described⟩
      · exact ⟨m, hm, own, _, hold, .rejects undescribed⟩
      · exact absurd described (undescribed batch)
  offered := by
    rintro ⟨m, hm, own, batch, hold⟩
    rcases reads_own_body h hm own hbody hold with hread | ⟨-, described⟩
    · cases hread
    · exact described
  full := by
    rw [answered_iff_proceeds h]
    constructor
    · rintro ⟨m, hm, own, old, hold, proceeds⟩
      cases proceeds with
      | overflows isOpen full => exact ⟨m, hm, ⟨own, _, hold⟩, isOpen, full⟩
    · rintro ⟨m, hm, ⟨own, batch, hoffer⟩, isOpen, full⟩
      exact ⟨m, hm, own, _, hoffer, .overflows isOpen full⟩
  closed := by
    rw [answered_iff_proceeds h]
    constructor
    · rintro ⟨m, hm, own, old, hold, proceeds⟩
      cases proceeds with
      | misses closed => exact ⟨m, hm, ⟨own, _, hold⟩, closed⟩
    · rintro ⟨m, hm, ⟨own, batch, hoffer⟩, closed⟩
      exact ⟨m, hm, own, _, hoffer, .misses closed⟩
  taken := ((counts h).mem_iff index).symm
  unchanged := by
    intro m hm own status after refused
    obtain ⟨old, next, -, -, hnext, unchanged⟩ := exists_proceeds h hm own
    cases hnext.symm.trans after
    exact unchanged status rfl refused

/-- What an intake owes to its requests. -/
structure Accounts (capacity : Nat) (past : List (Transition Intake Event)) (t : Intake) :
    Prop where
  bounded : t.channel.queue.length ≤ capacity
  /-- What was received and what is held are what the channel took, in its order. -/
  conserved : t.channel.isOpen = true →
    t.received ++ t.channel.queue = (acceptances past).map Acceptance.batch
  once : ((acceptances past).map Acceptance.index).Nodup
  described : ∀ a ∈ acceptances past, ∃ body,
    (bodies past)[a.index]? = some body ∧ a.batch.DescribedBy body
  health : t.health =
    .object [("status", .text "ready"), ("batches_received", .ofNat (countings past).length)]
  countedOnce : (countings past).Nodup
  counted_le : (countings past).length ≤ (acceptances past).length
  counted_eq : (countings past).length = t.statuses.count 200
  answers : ∀ index body, (bodies past)[index]? = some body → Answers past t index body

/-- Whatever the order in which handlers, consumer and requests take their steps: the
channel keeps its bound; as long as it is open, the batches received and then those
held are those it took, each once, with the events that the body of its request
lists; the health tells how many handlers have counted; and each request gets the
answer that is due to it, after at most three steps of its own. -/
theorem every_request_accounted (h : Trace step { channel := { capacity } } past t) :
    Accounts capacity past t where
  bounded := (Intake.bounded h).2
  conserved := by
    intro isOpen
    rw [← (conserves h).accepted, (conserves h).conserved isOpen]
  once := (conserves h).once
  described := by
    intro a ha
    obtain ⟨body, hbody, valid⟩ := (conserves h).decoded a ha
    exact ⟨body, hbody, Batch.ofOctets_eq_ok_iff.mp valid⟩
  health := by rw [Intake.health, (counts h).counter]
  countedOnce := (counts h).once
  counted_le := by
    -- Who has counted was answered with 200, so its batch was taken.
    have taken : countings past ⊆ (acceptances past).map Acceptance.index := by
      intro index counted
      exact (conserves h).mem_indices_iff.mpr (.inr (((counts h).mem_iff index).mp counted))
    have := ((counts h).once.subperm taken).length_le
    rwa [List.length_map] at this
  counted_eq := (counts h).statuses
  answers := fun _ _ hbody => Intake.answers h hbody

/-- Four requests beside a channel for one batch: the first fills it, the second finds
it full, the third brings no batch, and the last finds it closed and still full. -/
def fourRequests : List Event :=
  [.request (Text.encode ("[\x7b\"time\":\"t\",\"type\":\"a\",\"record\":1\x7d,"
      ++ "\x7b\"time\":\"u\",\"type\":\"b\",\"record\":null\x7d]")),
    .request (Text.encode "[]"), .request (Text.encode "[1]"), .request (Text.encode "[]"),
    .handle 0, .handle 0, .handle 1, .handle 2, .handle 1, .handle 3, .close, .handle 3,
    .receive, .handle 0]

theorem every_request_accounted_fourRequests :
    ∃ past t, follow step fourRequests { channel := { capacity := 1 } } = some (past, t) ∧
      t.statuses = [200, 503, 400, 500] ∧ t.received.map (·.map (·.type)) = [["a", "b"]] ∧
      (∃ m ∈ past, m.label.isHandle 3 ∧ m.before.channel.isOpen = false ∧
        m.before.channel.IsFull) ∧
      Accounts 1 past t := by
  have runs : (follow step fourRequests { channel := { capacity := 1 } }).any (fun (past, t) =>
      t.statuses = [200, 503, 400, 500] && t.received.map (·.map (·.type)) = [["a", "b"]] &&
      past.any fun m => m.label.isHandle 3 && !m.before.channel.isOpen &&
        m.before.channel.IsFull) = true := by decide +kernel
  obtain ⟨⟨past, t⟩, hfollow, seen⟩ := (Option.any_eq_true ..).mp runs
  simp only [Bool.and_eq_true, decide_eq_true_eq, List.any_eq_true, Bool.not_eq_true'] at seen
  obtain ⟨⟨statuses, received⟩, m, hm, ⟨own, closed⟩, full⟩ := seen
  exact ⟨past, t, hfollow, statuses, received, ⟨m, hm, own, closed, full⟩,
    every_request_accounted (Trace.start.follow hfollow)⟩

end Intake

end TelemetrySidecar
