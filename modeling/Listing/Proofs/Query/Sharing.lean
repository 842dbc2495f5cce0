import Listing.Proofs.Query.Calls

/-! # Calls that share a cancellation

  Several calls are under way at the same time. Each can be polled at
  any time, and while one waits for its answer, others are polled or
  begun. They share one cancellation, which may come between any two of
  these events.

  A poll goes on to where its call hands something out or asks for a
  page. Looking at the cancellation and sending the request is one
  event, since nothing else runs between the two; that the answer is
  taken up is another. The answers may be any, and come in any order.

  `WindsDown` says what is left after the cancellation, and each event
  keeps it: no more requests, and no more items than are there already.
-/

namespace Listing

variable {σ ε α : Type}

/-! ### State -/

/-- A call under way. -/
structure Thread (ε α : Type) where
  /-- The call as it was when its last step ended. -/
  call : Call ε α
  /-- Its request has been sent, and the answer has not been taken up. -/
  waiting : Bool

/-- Calls that share a cancellation. -/
structure Pool (ε α : Type) where
  /-- The calls, in the order in which they were begun. -/
  threads : List (Thread ε α)
  /-- All requests that have been sent. -/
  requests : List PageRequest
  /-- All calls are cancelled. -/
  cancelled : Bool

/-- What happens to a pool. -/
inductive Pool.Event (ε α : Type)
  /-- A stream is made. -/
  | stream (q : Query)
  /-- A collection is called. -/
  | collect (q : Query)
  /-- A count is called. -/
  | count (q : Query)
  /-- The call of the given number is polled. -/
  | poll (i : Nat)
  /-- The call of the given number takes up the answer that it waits for. -/
  | answer (i : Nat) (reply : Except ε (Page α))
  /-- All calls are cancelled. -/
  | cancel

/-! ### Events -/

namespace Thread

/-- The thread after a poll, and what the poll asks for. -/
def poll (cancelled : Bool) (t : Thread ε α) : Thread ε α × List PageRequest :=
  if t.waiting then (t, [])
  else
    match t.call.asks cancelled with
    | [] => (⟨(t.call.proceed .token cancelled).1, false⟩, [])
    | requests => (⟨t.call, true⟩, requests)

/-- The thread after an answer, if it waits for one. -/
def answer (reply : Except ε (Page α)) (cancelled : Bool) (t : Thread ε α) : Thread ε α :=
  if t.waiting then ⟨(t.call.proceed (.answered reply cancelled) false).1, false⟩ else t

/-- A poll after the cancellation. -/
theorem spends_poll (t : Thread ε α) :
    t.call.Spends (t.poll true).1.call ∧ (t.poll true).2 = [] := by
  unfold poll
  split
  · exact ⟨.refl _, rfl⟩
  · rw [t.call.asks_of_cancelled]
    exact ⟨t.call.proceed_spends fun _ => rfl, rfl⟩

/-- An answer that comes after the cancellation. -/
theorem spends_answer (reply : Except ε (Page α)) (t : Thread ε α) :
    t.call.Spends (t.answer reply true).call := by
  unfold answer
  split
  · exact t.call.proceed_spends fun _ => rfl
  · exact .refl _

end Thread

namespace Pool

/-- Nothing has happened. -/
def empty : Pool ε α := ⟨[], [], false⟩

/-- One more call. -/
def start (p : Pool ε α) (call : Call ε α) : Pool ε α :=
  { p with threads := p.threads ++ [⟨call, false⟩] }

/-- The call of the given number goes on, if there is one. -/
def update (p : Pool ε α) (i : Nat) (f : Thread ε α → Thread ε α × List PageRequest) :
    Pool ε α :=
  match p.threads[i]? with
  | none => p
  | some t =>
    let (t, requests) := f t
    { p with threads := p.threads.set i t, requests := p.requests ++ requests }

/-- The pool after an event. -/
def step (p : Pool ε α) : Event ε α → Pool ε α
  | .stream q => p.start (.ofStream (q.stream (.token : Service Bool ε α) p.cancelled))
  | .collect q => p.start (.collect q)
  | .count q => p.start (.count q)
  | .poll i => p.update i (Thread.poll p.cancelled)
  | .answer i reply => p.update i fun t => (t.answer reply p.cancelled, [])
  | .cancel => { p with cancelled := true }

/-- The pool after some events. -/
def run (p : Pool ε α) (events : List (Event ε α)) : Pool ε α := events.foldl step p

/-- The items that the call of the given number has handed out. -/
def taken (p : Pool ε α) (i : Nat) : List α :=
  match p.threads[i]? with
  | some t => t.call.taken
  | none => []

/-- The rest of the page that the call of the given number has. -/
def held (p : Pool ε α) (i : Nat) : List α :=
  match p.threads[i]? with
  | some t => t.call.held
  | none => []

/-! ### A call alone -/

/-- The pool where the call of the given number stands, and has asked, as it does with a service
of its own. -/
def withCall (p : Pool ε α) (i : Nat) (s : Service σ ε α) (state : Call ε α × σ × Journal ε α) :
    Pool ε α :=
  ⟨p.threads.set i ⟨state.1, false⟩, p.requests ++ state.2.2.requests,
    s.isCancelled state.2.1⟩

theorem run_append (p : Pool ε α) (events others : List (Event ε α)) :
    p.run (events ++ others) = (p.run events).run others :=
  List.foldl_append

/-- What a step of a call does at once, the pool does event by event: the poll, and if it asks,
the answer, before which the service may cancel all calls. -/
theorem exists_events_step {p : Pool ε α} {i : Nat} (hi : i < p.threads.length)
    (s : Service σ ε α) (state : Call ε α × σ × Journal ε α) :
    ∃ events, (p.withCall i s state).run events =
      p.withCall i s (Call.step s.recorded state) := by
  obtain ⟨call, w, j⟩ := state
  have hget : (p.threads.set i ⟨call, false⟩)[i]? = some ⟨call, false⟩ :=
    List.getElem?_set_self hi
  rcases call.proceed_cases s w j with
    ⟨hnone, hproceed⟩ | ⟨r, reply, v, hfree, hasks, -, hproceed⟩
  · rw [Call.step, hproceed]
    refine ⟨[.poll i], ?_⟩
    simp [run, step, update, withCall, hget, Thread.poll, hnone]
  · rw [Call.step, hproceed]
    have hpoll : (p.withCall i s (call, w, j)).step (.poll i) =
        ⟨p.threads.set i ⟨call, true⟩, p.requests ++ j.requests ++ [r], false⟩ := by
      simp [step, update, withCall, hget, Thread.poll, hfree, hasks]
    have hanswer : ∀ late, step
        ⟨p.threads.set i ⟨call, true⟩, p.requests ++ j.requests ++ [r], late⟩ (.answer i reply) =
          ⟨p.threads.set i ⟨(call.proceed (.answered reply late) false).1, false⟩,
            p.requests ++ j.requests ++ [r], late⟩ := by
      intro late
      simp [step, update, List.getElem?_set_self hi, Thread.answer]
    -- The service cancels all calls while the request is on its way, or it does not.
    cases hv : s.isCancelled v with
    | false =>
      refine ⟨[.poll i, .answer i reply], ?_⟩
      simp only [run, List.foldl_cons, List.foldl_nil, hpoll, hanswer]
      simp [withCall, hv, Journal.requests]
    | true =>
      have hcancel : ∀ threads requests, step (⟨threads, requests, false⟩ : Pool ε α) .cancel =
          ⟨threads, requests, true⟩ := fun _ _ => rfl
      refine ⟨[.poll i, .cancel, .answer i reply], ?_⟩
      simp only [run, List.foldl_cons, List.foldl_nil, hpoll, hcancel, hanswer]
      simp [withCall, hv, Journal.requests]

theorem exists_events_steps {p : Pool ε α} {i : Nat} (hi : i < p.threads.length)
    (s : Service σ ε α) (state : Call ε α × σ × Journal ε α) (n : Nat) :
    ∃ events, (p.withCall i s state).run events =
      p.withCall i s ((Call.step s.recorded)^[n] state) := by
  induction n generalizing state with
  | zero => exact ⟨[], rfl⟩
  | succ n ih =>
    obtain ⟨first, hfirst⟩ := exists_events_step hi s state
    obtain ⟨others, hothers⟩ := ih (Call.step s.recorded state)
    refine ⟨first ++ others, ?_⟩
    rw [run_append, hfirst, hothers, Function.iterate_succ_apply]

/-- The call that has begun last. -/
theorem start_withCall (p : Pool ε α) (call : Call ε α) (s : Service σ ε α)
    (state : Call ε α × σ × Journal ε α) :
    (p.start call).withCall p.threads.length s state =
      ⟨p.threads ++ [⟨state.1, false⟩], p.requests ++ state.2.2.requests,
        s.isCancelled state.2.1⟩ := by
  simp [withCall, start]

/-- A call that begins comes as far as it does with a service of its own. -/
theorem exists_events_start {p : Pool ε α} {s : Service σ ε α} {w : σ}
    (hw : p.cancelled = s.isCancelled w) (call : Call ε α) (n : Nat) :
    ∃ events, (p.start call).run events = (p.start call).withCall p.threads.length s
      ((Call.step s.recorded)^[n] (call, w, [])) := by
  have hlt : p.threads.length < (p.start call).threads.length := by simp [start]
  have hbegun : (p.start call).withCall p.threads.length s (call, w, []) = p.start call := by
    rw [start_withCall, ← hw]
    simp [start, Journal.requests]
  obtain ⟨events, hevents⟩ := exists_events_steps hlt s (call, w, []) n
  rw [hbegun] at hevents
  exact ⟨events, hevents⟩

/-- Collections and counts in a pool have the results that they have alone, and make the same
requests, if the other calls rest meanwhile. -/
theorem exists_events_alone (p : Pool ε α) (q : Query) (s : Service σ ε α) (w : σ)
    (hw : p.cancelled = s.isCancelled w) :
    (∃ events call,
      ((p.step (.collect q)).run events).threads = p.threads ++ [⟨call, false⟩] ∧
      call.collected? = some (q.collect s.recorded (w, [])).1 ∧
      ((p.step (.collect q)).run events).requests =
        p.requests ++ (q.collect s.recorded (w, [])).2.2.requests) ∧
    ∃ events,
      ((p.step (.count q)).run events).threads =
        p.threads ++ [⟨.counted (q.count s.recorded (w, [])).1, false⟩] ∧
      ((p.step (.count q)).run events).requests =
        p.requests ++ (q.count s.recorded (w, [])).2.2.requests := by
  constructor
  · obtain ⟨n, hresult, hw'⟩ := Call.step_collect q s.recorded (w, [])
    obtain ⟨events, hevents⟩ := exists_events_start hw (.collect q) n
    rw [start_withCall, hw'] at hevents
    refine ⟨events, _, ?_, hresult, ?_⟩
    · rw [step, hevents]
    · rw [step, hevents]
  · obtain ⟨events, hevents⟩ := exists_events_start hw (.count q) 1
    rw [start_withCall] at hevents
    refine ⟨events, ?_, ?_⟩
    · rw [step, hevents]
      rfl
    · rw [step, hevents]
      rfl

/-! ### After the cancellation -/

/-- What may become of a pool after the cancellation. -/
structure WindsDown (before after : Pool ε α) : Prop where
  /-- All calls stay cancelled. -/
  cancelled : after.cancelled = true
  /-- No request is sent. -/
  requests : after.requests = before.requests
  /-- Each call hands out items that it had already. -/
  spends : ∀ i, ∃ items, after.taken i = before.taken i ++ items ∧
    before.held i = items ++ after.held i

variable {p before after : Pool ε α}

theorem WindsDown.refl (h : p.cancelled = true) : WindsDown p p :=
  ⟨h, rfl, fun _ => ⟨[], (List.append_nil _).symm, rfl⟩⟩

theorem WindsDown.trans {middle : Pool ε α} (h : WindsDown before middle)
    (h' : WindsDown middle after) : WindsDown before after where
  cancelled := h'.cancelled
  requests := h'.requests.trans h.requests
  spends i := by
    obtain ⟨items, htaken, hheld⟩ := h.spends i
    obtain ⟨others, htaken', hheld'⟩ := h'.spends i
    refine ⟨items ++ others, ?_, ?_⟩
    · rw [htaken', htaken, List.append_assoc]
    · rw [hheld, hheld', List.append_assoc]

/-- A call that has nothing to hand out is begun. -/
theorem windsDown_start {call : Call ε α} (h : p.cancelled = true) (htaken : call.taken = [])
    (hheld : call.held = []) : WindsDown p (p.start call) where
  cancelled := h
  requests := rfl
  spends k := by
    suffices hsame : (p.start call).taken k = p.taken k ∧ (p.start call).held k = p.held k by
      rw [hsame.1, hsame.2]
      exact ⟨[], (List.append_nil _).symm, rfl⟩
    cases hk : p.threads[k]? with
    | some t =>
      have hlt : k < p.threads.length := (List.getElem?_eq_some_iff.mp hk).1
      simp [taken, held, start, List.getElem?_append_left hlt]
    | none =>
      -- The number is that of the new call, or of none.
      have hle : p.threads.length ≤ k := List.getElem?_eq_none_iff.mp hk
      simp only [taken, held, start, hk, List.getElem?_append_right hle]
      cases k - p.threads.length with
      | zero => exact ⟨htaken, hheld⟩
      | succ _ => exact ⟨rfl, rfl⟩

/-- A call goes on without a request. -/
theorem windsDown_update {i : Nat} {f : Thread ε α → Thread ε α × List PageRequest}
    (h : p.cancelled = true) (hf : ∀ t, t.call.Spends (f t).1.call ∧ (f t).2 = []) :
    WindsDown p (p.update i f) := by
  unfold update
  cases hi : p.threads[i]? with
  | none => exact .refl h
  | some t =>
    obtain ⟨hspends, hrequests⟩ := hf t
    refine ⟨h, ?_, ?_⟩
    · simp only [hrequests, List.append_nil]
    · intro k
      by_cases hk : i = k
      · subst hk
        have hlt : i < p.threads.length := (List.getElem?_eq_some_iff.mp hi).1
        simp only [taken, held, hi, List.getElem?_set_self hlt]
        exact hspends
      · simp only [taken, held, List.getElem?_set_ne hk]
        exact ⟨[], (List.append_nil _).symm, rfl⟩

theorem windsDown_step (h : p.cancelled = true) (event : Event ε α) :
    WindsDown p (p.step event) := by
  cases event with
  | stream q =>
    obtain ⟨htaken, hheld⟩ := Call.ofStream_stream q (.token : Service Bool ε α) p.cancelled
    exact windsDown_start h htaken hheld
  | collect q => exact windsDown_start h rfl rfl
  | count q => exact windsDown_start h rfl rfl
  | poll i =>
    apply windsDown_update h
    rw [h]
    exact Thread.spends_poll
  | answer i reply =>
    show WindsDown p (p.update i fun t => (t.answer reply p.cancelled, []))
    apply windsDown_update h
    rw [h]
    exact fun t => ⟨t.spends_answer reply, rfl⟩
  | cancel => exact ⟨rfl, rfl, fun _ => ⟨[], (List.append_nil _).symm, rfl⟩⟩

theorem windsDown_run (h : p.cancelled = true) (events : List (Event ε α)) :
    WindsDown p (p.run events) := by
  -- Each event starts from a cancelled pool and leaves one.
  induction events generalizing p with
  | nil => exact .refl h
  | cons event events ih =>
    have hstep := windsDown_step h event
    exact hstep.trans (ih hstep.cancelled)

/-- Any number of streams, collections and counts of any queries share a cancellation. After it,
no request is sent, neither by a call that was under way nor by one that begins later, and each
call hands out no items but those of the page that it has, in their order. -/
theorem silent_after_cancellation (earlier later : List (Event ε α)) :
    let p := (run .empty earlier).step .cancel
    (p.run later).requests = p.requests ∧
      ∀ i, ∃ items, (p.run later).taken i = p.taken i ++ items ∧
        p.held i = items ++ (p.run later).held i := by
  intro p
  have hdown : WindsDown p (p.run later) := windsDown_run rfl later
  exact ⟨hdown.requests, hdown.spends⟩

/-- Two streams are cancelled, one with an item left and one waiting for page 1. The item is handed
out, the page is dropped, and a count that begins later asks for nothing. -/
example :
    let q := Query.ofEntity .task Scenario.noon
    let page (items : List Nat) : Except String (Page Nat) := .ok ⟨4, items⟩
    let earlier : List (Event String Nat) :=
      [.stream q, .stream q, .poll 0, .poll 1, .answer 1 (page [0, 1]), .poll 1, .poll 1,
        .answer 0 (page [0, 1])]
    let later : List (Event String Nat) :=
      [.answer 1 (page [2, 3]), .poll 0, .poll 0, .count q, .poll 2]
    let p := (run .empty earlier).step .cancel
    p.requests.map (·.page) = [0, 0, 1] ∧ (p.run later).requests.length = 3 ∧
      (p.taken 0, p.held 0, (p.run later).taken 0) = ([0], [1], [0, 1]) ∧
      (p.taken 1, p.held 1, (p.run later).taken 1) = ([0, 1], [], [0, 1]) := by
  decide +kernel

end Pool
end Listing
