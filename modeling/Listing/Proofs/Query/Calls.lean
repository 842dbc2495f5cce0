import Listing.Proofs.Query.EntryPoints
import Mathlib.Logic.Function.Iterate

/-! # Calls step by step

  While a call of a query waits for an answer, others go on. So a call
  is seen as a sequence of steps: a step ends where the call hands out
  something, and it asks for one page at most, before it does anything
  else. Each step is one of the definitions that run: a poll of a
  cursor, the making of a stream, or a count.

  A step sees of its surroundings only the cancellation, and the answer
  to its request if it makes one. Where it has been cancelled, it makes
  none, and where it is cancelled before the answer comes, it hands out
  only what was there already.
-/

namespace Listing

open Cursor

variable {σ ε α : Type}

/-! ### Calls -/

/-- A call of a query. -/
inductive Call (ε α : Type)
  /-- A stream, or the stream that a collection reads: the items taken from it so far, and its
  error if it has ended with one. -/
  | listing (c : Cursor ε α) (taken : List α) (failure : Option (PagingError ε))
  /-- A collection that has not begun. -/
  | collect (q : Query)
  /-- A count that has not been answered. -/
  | count (q : Query)
  /-- A count that has returned. -/
  | counted (result : Except (QueryError ε) Nat)
  /-- A stream or a collection of a query that cannot be run. -/
  | refused (f : QueryFault)

namespace Call

/-- The call that reads a stream, if the stream could be made. -/
def ofStream : Except QueryFault (Cursor ε α) → Call ε α
  | .error f => .refused f
  | .ok c => .listing c [] none

/-- The stream after a poll. -/
def receive (taken : List α) (failure : Option (PagingError ε)) (d : Cursor ε α) :
    Yield ε α → Call ε α
  | some (.ok x) => .listing d (taken ++ [x]) failure
  | some (.error e) => .listing d taken (some e)
  | none => .listing d taken failure

/-- One step of a call. -/
def proceed (s : Service σ ε α) : Call ε α → σ → Call ε α × σ
  | .listing c taken failure, w =>
    let (y, d, v) := next s c w
    (receive taken failure d y, v)
  | .collect q, w => (ofStream (q.stream s w), w)
  | .count q, w =>
    let (result, v) := q.count s w
    (.counted result, v)
  | .counted result, w => (.counted result, w)
  | .refused f, w => (.refused f, w)

/-- The items that have been taken. -/
def taken : Call ε α → List α
  | .listing _ taken _ => taken
  | .collect _ | .count _ | .counted _ | .refused _ => []

/-- The rest of the page that is there. -/
def held : Call ε α → List α
  | .listing (.reading _ _ _ _ ready) _ _ | .listing (.finishing ready) _ _ => ready
  | .listing (.failing _) _ _ | .listing .finished _ _ => []
  | .collect _ | .count _ | .counted _ | .refused _ => []

/-- The result of a collection that has come to its end. -/
def collected? : Call ε α → Option (Except (QueryError ε) (List α))
  | .listing .finished taken failure => some ((gathered taken failure).mapError .paging)
  | .refused f => some (.error (.fault f))
  | .listing .. | .collect _ | .count _ | .counted _ => none

end Call

/-! ### What a step sees -/

/-- The surroundings of a step that asks for nothing: whether the call is cancelled. -/
def Service.token : Service Bool ε α where
  fetch _ cancelled := (.ok ⟨0, []⟩, cancelled)
  isCancelled cancelled := cancelled

/-- The surroundings of a step that asks: the answer, and whether the call is cancelled when the
answer is there. -/
def Service.answered (answer : Except ε (Page α)) (late : Bool) : Service Bool ε α where
  fetch _ _ := (answer, late)
  isCancelled cancelled := cancelled

/-- What comes of a poll that asks depends on the answer and on the cancellation alone. -/
theorem Cursor.next_eq_answered {s : Service σ ε α} {w v : σ} {template : PageRequest}
    {page : Nat} {answer : Except ε (Page α)} (hw : s.isCancelled w = false)
    (hfetch : s.fetch (template.at page) w = (answer, v)) (received : Nat) (total : Option Nat) :
    next s (.reading template page received total []) w =
      ((next (.answered answer (s.isCancelled v)) (.reading template page received total [])
        false).1,
        (next (.answered answer (s.isCancelled v)) (.reading template page received total [])
          false).2.1, v) := by
  simp only [next, request, hw, hfetch, Service.answered, Bool.false_eq_true, if_false]
  cases answer with
  | error cause => rfl
  | ok p =>
    cases hv : s.isCancelled v <;> simp [hv]

/-- A poll that asks and is cancelled before the answer comes ends the listing. -/
theorem Cursor.next_of_late {s : Service σ ε α} {w : σ}
    (hlate : ∀ r, s.isCancelled (s.fetch r w).2 = true) (template : PageRequest)
    (page received : Nat) (total : Option Nat) :
    ∃ e v, next s (.reading template page received total []) w =
      (some (.error e), .finished, v) := by
  cases hw : s.isCancelled w with
  | true => exact ⟨_, _, next_of_cancelled hw⟩
  | false =>
    have hv := hlate (template.at page)
    simp only [next, request, hw, Bool.false_eq_true, if_false]
    generalize s.fetch (template.at page) w = fetched at hv
    obtain ⟨answer, v⟩ := fetched
    cases answer with
    | error cause => exact ⟨_, _, rfl⟩
    | ok p => exact ⟨_, _, if_pos hv⟩

namespace Query

variable {q : Query} {p : Plan} {s : Service σ ε α} {w v : σ} {r : PageRequest}

/-- The making of a stream asks for nothing. -/
theorem stream_eq_token (q : Query) (s : Service σ ε α) (w : σ) :
    (q.stream s w : Except QueryFault (Cursor ε α)) =
      q.stream (.token : Service Bool ε α) (s.isCancelled w) := by
  unfold stream
  cases q.plan <;> rfl

/-- The count has a request to make, and is not cancelled. -/
def CountAsks (q : Query) (cancelled : Bool) (r : PageRequest) : Prop :=
  cancelled = false ∧ ∃ p first, q.plan = .ok p ∧ p.request? 0 = some first ∧
    r = { first with pageSize := 1 }

/-- Without a request a count sees the cancellation alone. -/
theorem count_eq_token (h : ∀ r, ¬q.CountAsks (s.isCancelled w) r) :
    q.count s w = ((q.count (.token : Service Bool ε α) (s.isCancelled w)).1, w) := by
  unfold count
  cases hp : q.plan with
  | error f => rfl
  | ok p =>
    cases hw : s.isCancelled w with
    | true => rfl
    | false =>
      cases hr : p.request? 0 with
      | none => simp only [hr, Service.token, Bool.false_eq_true, if_false]
      | some first => exact absurd ⟨hw, p, first, hp, hr, rfl⟩ (h _)

/-- With a request it makes it, and returns what the answer says. -/
theorem count_of_countAsks (h : q.CountAsks (s.isCancelled w) r) :
    q.count s w = (countResult (s.fetch r w).1, (s.fetch r w).2) := by
  obtain ⟨hw, p, first, hp, hr, rfl⟩ := h
  exact count_of_request hp hw hr

end Query

namespace Call

/-- What the next step asks for. -/
def asks (call : Call ε α) (cancelled : Bool) : List PageRequest :=
  (call.proceed Service.token.recorded (cancelled, [])).2.2.requests

/-- A step either asks for nothing, and sees the cancellation alone, or it asks for one page, not
being cancelled, and then sees the answer as well. -/
theorem proceed_cases (call : Call ε α) (s : Service σ ε α) (w : σ) (j : Journal ε α) :
    (call.asks (s.isCancelled w) = [] ∧ call.proceed s.recorded (w, j) =
      ((call.proceed .token (s.isCancelled w)).1, w, j)) ∨
    ∃ r answer v, s.isCancelled w = false ∧ call.asks false = [r] ∧ s.fetch r w = (answer, v) ∧
      call.proceed s.recorded (w, j) =
        ((call.proceed (.answered answer (s.isCancelled v)) false).1, v, j ++ [(r, answer)]) := by
  cases call with
  | listing c taken failure =>
    -- A cursor asks where it has nothing ready and another page to come.
    cases c with
    | reading template page received total ready =>
      cases ready with
      | cons x ready => exact .inl ⟨rfl, rfl⟩
      | nil =>
        cases hw : s.isCancelled w with
        | true =>
          have hcancelled : s.recorded.isCancelled (w, j) = true := hw
          have hnext : next s.recorded (.reading template page received total []) (w, j) = _ :=
            next_of_cancelled hcancelled
          refine .inl ⟨rfl, ?_⟩
          rw [proceed, hnext]
          rfl
        | false =>
          have hfree : s.recorded.isCancelled (w, j) = false := hw
          have hnext : next s.recorded (.reading template page received total []) (w, j) = _ :=
            next_eq_answered hfree rfl received total
          refine .inr ⟨_, _, _, rfl, rfl, rfl, ?_⟩
          rw [proceed, hnext]
          rfl
    | finishing ready => cases ready <;> exact .inl ⟨rfl, rfl⟩
    | failing error => exact .inl ⟨rfl, rfl⟩
    | finished => exact .inl ⟨rfl, rfl⟩
  | collect q =>
    refine .inl ⟨rfl, ?_⟩
    rw [proceed, proceed, Query.stream_eq_token]
    rfl
  | count q =>
    -- A count asks in its first step, or it returns there.
    by_cases h : ∃ r, q.CountAsks (s.isCancelled w) r
    · obtain ⟨r, hr⟩ := h
      have hw := hr.1
      have hasked : q.CountAsks false r := hw ▸ hr
      refine .inr ⟨r, _, _, hw, ?_, rfl, ?_⟩
      · rw [asks, proceed, Query.count_of_countAsks (s := Service.token.recorded) (w := (false, []))
          hasked]
        rfl
      · rw [proceed, proceed, Query.count_of_countAsks (s := s.recorded) (w := (w, j)) hr,
          Query.count_of_countAsks (w := false) (r := r) hasked]
        rfl
    · have hnot := not_exists.mp h
      refine .inl ⟨?_, ?_⟩
      · rw [asks, proceed, Query.count_eq_token (s := Service.token.recorded)
          (w := (s.isCancelled w, [])) hnot]
        rfl
      · rw [proceed, proceed, Query.count_eq_token (s := s.recorded) (w := (w, j)) hnot]
        rfl
  | counted result => exact .inl ⟨rfl, rfl⟩
  | refused f => exact .inl ⟨rfl, rfl⟩

/-- Once it is cancelled a call asks for nothing. -/
theorem asks_of_cancelled (call : Call ε α) : call.asks true = [] := by
  rcases call.proceed_cases Service.token true [] with ⟨hnone, -⟩ | ⟨_, _, _, hw, -⟩
  · exact hnone
  · cases hw

/-! ### What a step hands out -/

/-- From one call to the other items are taken, all of them from the page that is there. -/
def Spends (before after : Call ε α) : Prop :=
  ∃ items, after.taken = before.taken ++ items ∧ before.held = items ++ after.held

theorem Spends.refl (call : Call ε α) : call.Spends call := ⟨[], by simp, rfl⟩

/-- A stream has nothing to hand out when it is made. -/
theorem ofStream_stream (q : Query) (s : Service σ ε α) (w : σ) :
    (ofStream (q.stream s w)).taken = [] ∧ (ofStream (q.stream s w)).held = [] := by
  cases hplan : q.plan with
  | error f =>
    have hstream : q.stream s w = .error f := (Query.refused_of_plan hplan).1
    rw [hstream]
    exact ⟨rfl, rfl⟩
  | ok p =>
    rw [Query.stream_eq_ok hplan, Query.cursor]
    cases p.request? 0 with
    | some template => exact ⟨rfl, rfl⟩
    | none => cases s.isCancelled w <;> exact ⟨rfl, rfl⟩

/-- A step that is cancelled before an answer can come hands out nothing but the rest of a page
that is there. -/
theorem proceed_spends (call : Call ε α) {s : Service σ ε α} {w : σ}
    (hlate : ∀ r, s.isCancelled (s.fetch r w).2 = true) :
    call.Spends (call.proceed s w).1 := by
  cases call with
  | listing c taken failure =>
    cases c with
    | reading template page received total ready =>
      cases ready with
      | cons x ready => exact ⟨[x], rfl, rfl⟩
      | nil =>
        -- No page that comes from here on is in time.
        obtain ⟨e, v, hnext⟩ := next_of_late hlate template page received total
        rw [proceed, hnext]
        exact ⟨[], (List.append_nil _).symm, rfl⟩
    | finishing ready =>
      cases ready with
      | cons x ready => exact ⟨[x], rfl, rfl⟩
      | nil => exact ⟨[], (List.append_nil _).symm, rfl⟩
    | failing error => exact ⟨[], (List.append_nil _).symm, rfl⟩
    | finished => exact ⟨[], (List.append_nil _).symm, rfl⟩
  | collect q =>
    obtain ⟨htaken, hheld⟩ := ofStream_stream q s w
    exact ⟨[], htaken, hheld.symm⟩
  | count q => exact ⟨[], rfl, rfl⟩
  | counted result => exact ⟨[], rfl, rfl⟩
  | refused f => exact ⟨[], rfl, rfl⟩

/-! ### Collections -/

/-- The step of a call and its surroundings. -/
def step (s : Service σ ε α) (state : Call ε α × σ) : Call ε α × σ := state.1.proceed s state.2

theorem step_listing_of_delivers {s : Service σ ε α} {c : Cursor ε α} {w w' : σ} {items : List α}
    {failure : Option (PagingError ε)} (h : Delivers s c w items failure w') (taken : List α) :
    ∃ n, (step s)^[n] (.listing c taken none, w) =
      (.listing .finished (taken ++ items) failure, w') := by
  induction h generalizing taken with
  | done hnext =>
    refine ⟨1, ?_⟩
    rw [Function.iterate_one, step, proceed, hnext, List.append_nil]
    rfl
  | failed hnext =>
    refine ⟨1, ?_⟩
    rw [Function.iterate_one, step, proceed, hnext, List.append_nil]
    rfl
  | @item c d w v w' x items failure hnext _ ih =>
    obtain ⟨n, hn⟩ := ih (taken ++ [x])
    refine ⟨n + 1, ?_⟩
    have hstep : step s (.listing c taken none, w) = (.listing d (taken ++ [x]) none, v) := by
      rw [step, proceed, hnext]
      rfl
    rw [Function.iterate_succ_apply, hstep, hn, List.append_assoc]
    rfl

/-- Step by step a collection comes to the result that it has at once. -/
theorem step_collect (q : Query) (s : Service σ ε α) (w : σ) :
    ∃ n, ((step s)^[n] (.collect q, w)).1.collected? = some (q.collect s w).1 ∧
      ((step s)^[n] (.collect q, w)).2 = (q.collect s w).2 := by
  cases hstream : q.stream s w with
  | error f =>
    refine ⟨1, ?_⟩
    rw [Function.iterate_one, step, proceed, hstream, Query.collect, hstream]
    exact ⟨rfl, rfl⟩
  | ok c =>
    obtain ⟨items, failure, w', hdelivers⟩ := exists_delivers s c w
    obtain ⟨n, hn⟩ := step_listing_of_delivers hdelivers []
    have hstep : step s (.collect q, w) = (.listing c [] none, w) := by
      rw [step, proceed, hstream]
      rfl
    refine ⟨n + 1, ?_⟩
    rw [Function.iterate_succ_apply, hstep, hn, Query.collect_of_delivers hstream hdelivers]
    exact ⟨rfl, rfl⟩

end Call
end Listing
