import Listing.Proofs.Paging.Journal
import Listing.Proofs.Query.Count
import Listing.Proofs.Query.Planning

/-! # Streams, collections and counts

  There are three ways to run a query, and each looks at four things
  before it asks for anything: the page size, the predicate with the
  ordering, the cancellation, and whether anything is selected at all.
  They look in the same order, so that they agree on why there is no
  result, and until all four have been looked at the journal stays as
  it is.
-/

namespace Listing
namespace Query

open Cursor

variable {σ ε α : Type} {q : Query} {p : Plan} {s : Service σ ε α} {w w' : σ}

/-! ### Refused queries -/

/-- All ways to run the query fail with the fault, and nothing else happens. -/
def Refused (q : Query) (s : Service σ ε α) (w : σ) (f : QueryFault) : Prop :=
  q.stream s w = .error f ∧ q.collect s w = (.error (.fault f), w) ∧
    q.count s w = (.error (.fault f), w)

theorem refused_of_plan {f : QueryFault} (h : q.plan = .error f) : q.Refused s w f := by
  have hstream : q.stream s w = .error f := by rw [stream, h]
  refine ⟨hstream, ?_, ?_⟩
  · rw [collect, hstream]
  · rw [count, h]

/-! ### Cancelled queries -/

/-- A cursor that is made and polled after the cancellation reports it, whether there is anything
to request or not. -/
theorem next_cursor_of_cancelled (p : Plan) (h : s.isCancelled w = true) :
    next s (cursor p true) w = (some (.error (.cancelled 0)), .finished, w) := by
  unfold cursor
  cases p.request? 0 with
  | none => rfl
  | some template => exact next_of_cancelled h

theorem collect_of_cancelledBefore (h : q.CancelledBefore s w) :
    q.collect s w = (.error (.paging (.cancelled 0)), w) := by
  obtain ⟨hw, p, hp⟩ := h
  have hnext := next_cursor_of_cancelled p hw
  rw [← hw] at hnext
  exact collect_of_delivers (stream_eq_ok hp) (.failed hnext)

/-- All ways to run the query report that it is cancelled, a stream as long as it stays so, and
nothing is asked for. -/
def ReportsCancelled (q : Query) (s : Service σ ε α) (w : σ) (j : Journal ε α) : Prop :=
  q.collect s.recorded (w, j) = (.error (.paging (.cancelled 0)), w, j) ∧
    q.count s.recorded (w, j) = (.error (.paging (.cancelled 0)), w, j) ∧
      ∃ c, q.stream s.recorded (w, j) = .ok c ∧ ∀ session : Session σ ε α,
        (∀ k, session.service.isCancelled (session.surroundings c k) = true) →
          ∀ k, session.poll c k =
              ([.error (.cancelled 0)] : List (Except (PagingError ε) α))[k]? ∧
            session.journal c k = []

theorem reportsCancelled_of_plan (hplan : q.plan = .ok p) (hw : s.isCancelled w = true)
    (j : Journal ε α) : q.ReportsCancelled s w j := by
  have hbefore : q.CancelledBefore s.recorded (w, j) := ⟨hw, p, hplan⟩
  refine ⟨collect_of_cancelledBefore hbefore, count_of_cancelledBefore hbefore, _,
    stream_eq_ok hplan, ?_⟩
  intro session hcancelled
  have hcursor : s.recorded.isCancelled (w, j) = true := hw
  rw [hcursor] at hcancelled ⊢
  -- The first poll reports the cancellation, and there is no other.
  exact Session.poll_of_error (next_cursor_of_cancelled p (hcancelled 0))

/-! ### Empty plans -/

/-- A stream with nothing to ask for is settled by whether the query is cancelled already. -/
theorem stream_of_isEmpty (hplan : q.plan = .ok p) (h : p.isEmpty = true) :
    q.stream s w = .ok (if s.isCancelled w then .failing (.cancelled 0) else .finished) := by
  rw [stream_eq_ok hplan, cursor, p.request?_of_isEmpty h]

theorem count_of_isEmpty (hplan : q.plan = .ok p) (hw : s.isCancelled w = false)
    (h : p.isEmpty = true) : q.count s w = (.ok 0, w) := by
  simp [count, hplan, hw, p.request?_of_isEmpty h]

/-- All ways to run the query say that there are no items, and nothing is asked for. -/
def ReportsNothing (q : Query) (s : Service σ ε α) (w : σ) (j : Journal ε α) : Prop :=
  q.collect s.recorded (w, j) = (.ok [], w, j) ∧
    q.count s.recorded (w, j) = (.ok 0, w, j) ∧
      ∃ c, q.stream s.recorded (w, j) = .ok c ∧ ∀ (session : Session σ ε α) (k : Nat),
        session.poll c k = none ∧ session.journal c k = []

theorem reportsNothing_of_plan (hplan : q.plan = .ok p) (hw : s.isCancelled w = false)
    (hempty : p.isEmpty = true) (j : Journal ε α) : q.ReportsNothing s w j := by
  have hcursor : s.recorded.isCancelled (w, j) = false := hw
  have hstream : q.stream s.recorded (w, j) = .ok .finished := by
    rw [stream_of_isEmpty hplan hempty, hcursor]
    rfl
  exact ⟨collect_of_delivers hstream (.done rfl), count_of_isEmpty hplan hcursor hempty, _,
    hstream, fun session => Session.poll_of_finished⟩

/-! ### Counts -/

/-- What a count makes of the answer to its request. -/
def countResult : Except ε (Page α) → Except (QueryError ε) Nat
  | .ok page => .ok page.total
  | .error cause => .error (.paging (.fetchFailed 0 cause))

theorem count_of_request {r : PageRequest} (hplan : q.plan = .ok p)
    (hw : s.isCancelled w = false) (hr : p.request? 0 = some r) :
    q.count s w =
      (countResult (s.fetch { r with pageSize := 1 } w).1,
        (s.fetch { r with pageSize := 1 } w).2) := by
  rw [count, hplan]
  simp only [hw, hr, Bool.false_eq_true, if_false]
  obtain ⟨answer, v⟩ := s.fetch { r with pageSize := 1 } w
  cases answer <;> rfl

/-! ### All ways to run a query -/

/-- Which fault is reported: a page size that is not allowed before any fault of the predicate,
that before any fault of the ordering, and the latter whatever the predicate compiles to. If a
query has a fault, then all ways to run it fail with this fault, cancelled or not. Otherwise, if
it is cancelled, then all report that and nothing else. Otherwise, if nothing is selected, then
there are no items, and their number is 0. None of these asks for anything. Otherwise a count
asks once, for a page of one record, and returns the total of the answer or the failure. -/
theorem entry_points_agree (q : Query) (s : Service σ ε α) (w : σ) (j : Journal ε α) :
    (¬(1 ≤ q.plannedSize ∧ q.plannedSize ≤ q.settings.maxPageSize) →
      q.plan = .error (.settings (.invalidPageSize q.plannedSize q.settings.maxPageSize))) ∧
    (1 ≤ q.plannedSize ∧ q.plannedSize ≤ q.settings.maxPageSize →
      (∀ f e, q.predicate = some f → q.compiler.compile f = .error e →
        q.plan = .error (.compile e)) ∧
      ∀ k e, (∀ f, q.predicate = some f → ∃ x, q.compiler.compile f = .ok x) →
        q.key = some k → q.catalog.sortKey k = .error e → q.plan = .error (.compile e)) ∧
    (∀ f, q.plan = .error f → q.Refused s.recorded (w, j) f) ∧
    ∀ p, q.plan = .ok p →
      (s.isCancelled w = true → q.ReportsCancelled s w j) ∧
      (s.isCancelled w = false → p.isEmpty = true → q.ReportsNothing s w j) ∧
      (s.isCancelled w = false → p.isEmpty = false → ∃ r, p.request? 0 = some r ∧
        let one := { r with pageSize := 1 }
        q.count s.recorded (w, j) =
          (countResult (s.fetch one w).1, (s.fetch one w).2, j ++ [(one, (s.fetch one w).1)])) := by
  refine ⟨plan_of_pageSize, ?_, fun f => refused_of_plan, ?_⟩
  · intro hsize
    exact ⟨fun f e => plan_of_predicate hsize, fun k e => plan_of_key hsize⟩
  · intro p hplan
    refine ⟨fun hw => reportsCancelled_of_plan hplan hw j,
      fun hw hempty => reportsNothing_of_plan hplan hw hempty j, ?_⟩
    intro hw hresults
    obtain ⟨r, hr⟩ := p.exists_request hresults
    exact ⟨r, hr, count_of_request (s := s.recorded) (w := (w, j)) hplan hw hr⟩

end Query
end Listing
