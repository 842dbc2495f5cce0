import Listing.Proofs.Paging.Cancellation
import Listing.Query
import Listing.Scenario.Task

/-! # Cancelled counts

  A count asks for one page, like the first poll of a stream, but looks
  at the cancellation only before the request. Where the query is
  cancelled while the request is on its way, the stream drops the page
  and the count takes its total all the same. Otherwise the two are
  cancelled together.
-/

namespace Listing
namespace Query

open Cursor

variable {σ ε α : Type} {q : Query} {s : Service σ ε α} {w : σ}

/-! ### When a query is cancelled -/

/-- What the polls of the query's cursor hand out; nothing if the query cannot be run. -/
def streamed (q : Query) (s : Service σ ε α) (w : σ) (i : Nat) : Yield ε α :=
  match q.stream s w with
  | .error _ => none
  | .ok c => Cursor.poll s c w i

/-- The query can be run, and it is cancelled before anything is requested. -/
def CancelledBefore (q : Query) (s : Service σ ε α) (w : σ) : Prop :=
  s.isCancelled w = true ∧ ∃ p, q.plan = .ok p

/-- The query is cancelled while the request for its first page is on its way, and an answer
comes. -/
def AnsweredTooLate (q : Query) (s : Service σ ε α) (w : σ) : Prop :=
  s.isCancelled w = false ∧ ∃ p r page w', q.plan = .ok p ∧ p.request? 0 = some r ∧
    s.fetch r w = (.ok page, w') ∧ s.isCancelled w' = true

/-! ### Streams -/

/-- The request for the first page is already for page 0. -/
theorem at_request {p : Plan} {r : PageRequest} (h : p.request? 0 = some r) : r.at 0 = r := by
  unfold Plan.request? at h
  split at h
  · cases h
  · cases h
    rfl

theorem stream_eq_ok {p : Plan} (h : q.plan = .ok p) :
    q.stream s w = .ok (cursor p (s.isCancelled w)) := by
  rw [stream, h]

/-- A collection gathers all that its stream delivers. -/
theorem collect_of_delivers {c : Cursor ε α} {items : List α} {failure : Option (PagingError ε)}
    {w' : σ} (hstream : q.stream s w = .ok c) (h : Delivers s c w items failure w') :
    q.collect s w = ((gathered items failure).mapError .paging, w') := by
  rw [collect, hstream]
  simp only [h.drain_eq]
  cases failure <;> rfl

/-- A stream that is cancelled before its first page hands out an error alone. -/
theorem delivers_of_cancelled (h : q.CancelledBefore s w ∨ q.AnsweredTooLate s w) :
    ∃ c w', q.stream s w = .ok c ∧ Delivers s c w [] (some (.cancelled 0)) w' := by
  rcases h with ⟨hw, p, hp⟩ | ⟨hw, p, r, page, w', hp, hr, hfetch, hw'⟩
  · refine ⟨_, w, stream_eq_ok hp, .failed ?_⟩
    unfold cursor
    split
    · exact if_pos hw
    · rw [if_pos hw]
      rfl
  · refine ⟨_, w', stream_eq_ok hp, .failed ?_⟩
    rw [cursor, hr]
    show request s r 0 0 none w = _
    rw [request, if_neg (by rw [hw]; exact Bool.false_ne_true), at_request hr, hfetch]
    exact if_pos hw'

/-- Only an answer that comes too late makes a difference between the first request and its
cancellation. -/
theorem cancelled_of_request {template : PageRequest} {page received n : Nat} {total : Option Nat}
    (h : (request s template page received total w).1 = some (.error (.cancelled n))) :
    n = page ∧ (s.isCancelled w = true ∨ s.isCancelled w = false ∧
      ∃ p w', s.fetch (template.at page) w = (.ok p, w') ∧ s.isCancelled w' = true) := by
  unfold request at h
  split at h
  · next hw =>
    cases h
    exact ⟨rfl, .inl hw⟩
  · next hw =>
    split at h
    · cases h
    · next p w' hfetch =>
      split at h
      · next hw' =>
        cases h
        exact ⟨rfl, .inr ⟨Bool.eq_false_iff.mpr hw, p, w', hfetch, hw'⟩⟩
      · exact absurd h (arrive_ne_error _ _ _ _ _ _)

theorem cancelled_of_streamed {n : Nat} (h : q.streamed s w 0 = some (.error (.cancelled n))) :
    n = 0 ∧ (q.CancelledBefore s w ∨ q.AnsweredTooLate s w) := by
  unfold streamed at h
  cases hp : q.plan with
  | error f =>
    rw [stream, hp] at h
    cases h
  | ok p =>
    rw [stream_eq_ok hp] at h
    change Cursor.poll s (cursor p (s.isCancelled w)) w 0 = _ at h
    rw [poll_zero] at h
    cases hr : p.request? 0 with
    | none =>
      -- Nothing is requested, so there is nothing to be late.
      rw [cursor, hr] at h
      cases hw : s.isCancelled w with
      | false =>
        rw [hw] at h
        cases h
      | true =>
        rw [hw] at h
        cases h
        exact ⟨rfl, .inl ⟨hw, p, hp⟩⟩
    | some r =>
      rw [cursor, hr] at h
      obtain ⟨rfl, hw | ⟨hw, page, w', hfetch, hw'⟩⟩ := cancelled_of_request h
      · exact ⟨rfl, .inl ⟨hw, p, hp⟩⟩
      · rw [at_request hr] at hfetch
        exact ⟨rfl, .inr ⟨hw, p, r, page, w', hp, hr, hfetch, hw'⟩⟩

/-! ### Counts -/

theorem count_of_cancelledBefore (h : q.CancelledBefore s w) :
    q.count s w = (.error (.paging (.cancelled 0)), w) := by
  obtain ⟨hw, p, hp⟩ := h
  rw [count, hp]
  exact if_pos hw

theorem cancelledBefore_of_count {n : Nat}
    (h : (q.count s w).1 = .error (.paging (.cancelled n))) : n = 0 ∧ q.CancelledBefore s w := by
  unfold count at h
  split at h
  · cases h
  · next p hp =>
    split at h
    · next hw =>
      cases h
      exact ⟨rfl, hw, p, hp⟩
    · -- From here on the cancellation is not looked at any more.
      split at h
      · cases h
      · split at h <;> cases h

/-- A count takes the answer to its request whenever it comes. -/
theorem count_of_answer {p : Plan} {r : PageRequest} {page : Page α} {w' : σ}
    (hw : s.isCancelled w = false) (hp : q.plan = .ok p) (hr : p.request? 0 = some r)
    (hfetch : s.fetch { r with pageSize := 1 } w = (.ok page, w')) :
    q.count s w = (.ok page.total, w') := by
  simp [count, hp, hw, hr, hfetch]

/-! ### Both -/

/-- A count is cancelled exactly where the query is cancelled before the request, and the first
item of its stream is the error of a cancellation there and also where the first page comes too
late. In both cases this error is the only item of the stream and the result of reading it at
once. But where the first page comes too late, a count returns the total that its own request is
answered with. -/
theorem count_cancelled (q : Query) (s : Service σ ε α) (w : σ) :
    (∀ n, (q.count s w).1 = .error (.paging (.cancelled n)) ↔ n = 0 ∧ q.CancelledBefore s w) ∧
    (∀ n, q.streamed s w 0 = some (.error (.cancelled n)) ↔
      n = 0 ∧ (q.CancelledBefore s w ∨ q.AnsweredTooLate s w)) ∧
    (q.CancelledBefore s w ∨ q.AnsweredTooLate s w →
      (∀ i, q.streamed s w i = ([.error (.cancelled 0)] : List (Except (PagingError ε) α))[i]?) ∧
      (q.collect s w).1 = .error (.paging (.cancelled 0))) ∧
    (q.AnsweredTooLate s w → ∀ p r page w', q.plan = .ok p → p.request? 0 = some r →
      s.fetch { r with pageSize := 1 } w = (.ok page, w') →
        q.count s w = (.ok page.total, w')) := by
  have hstream : q.CancelledBefore s w ∨ q.AnsweredTooLate s w →
      (∀ i, q.streamed s w i = ([.error (.cancelled 0)] : List (Except (PagingError ε) α))[i]?) ∧
      (q.collect s w).1 = .error (.paging (.cancelled 0)) := by
    intro h
    obtain ⟨c, w', hc, hdelivers⟩ := delivers_of_cancelled h
    constructor
    · intro i
      rw [streamed, hc]
      exact hdelivers.poll_eq i
    · rw [collect_of_delivers hc hdelivers]
      rfl
  refine ⟨fun n => ⟨cancelledBefore_of_count, ?_⟩, fun n => ⟨cancelled_of_streamed, ?_⟩, hstream,
    ?_⟩
  · rintro ⟨rfl, h⟩
    rw [count_of_cancelledBefore h]
  · rintro ⟨rfl, h⟩
    exact (hstream h).1 0
  · intro h p r page w' hp hr hfetch
    exact count_of_answer h.1 hp hr hfetch

/-- Tasks are counted although the query is cancelled while the request is on its way; their
stream reports the cancellation. -/
theorem count_of_interrupted_tasks :
    let q := Query.ofEntity .task Scenario.noon
    let fetch : Fetcher Unit String Nat :=
      fun r m => (Script.answer ⟨[1], 5, none, none⟩ r, m)
    let s := fetch.interrupted 0 fetch
    let w : Surroundings Unit := ⟨(), [], false⟩
    q.AnsweredTooLate s w ∧
      q.streamed s w 0 = some (.error (.cancelled 0)) ∧
      (q.count s w).1 = .ok 5 := by
  intro q fetch s w
  exact ⟨⟨rfl, _, _, _, _, rfl, rfl, rfl, rfl⟩, rfl, rfl⟩

end Query
end Listing
