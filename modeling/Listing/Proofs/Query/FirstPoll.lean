import Listing.Proofs.Query.EntryPoints
import Listing.Scenario.Script

/-! # Cancellation before the first poll

  A query may be cancelled before its stream is made, or after that and
  before the stream is polled for the first time. A stream that has
  pages to ask for looks at the cancellation when it is polled. One
  that has none is settled when it is made, and a cancellation that
  comes later is lost on it.
-/

namespace Listing

variable {σ ε α : Type}

/-! ### Streams that ask for nothing -/

namespace Session

variable {session : Session σ ε α} {c : Cursor ε α}

/-- The only item is the error of a cancellation before page 0, and nothing is asked for. -/
def OnlyCancelled (session : Session σ ε α) (c : Cursor ε α) : Prop :=
  ∀ k, session.poll c k = ([.error (.cancelled 0)] : List (Except (PagingError ε) α))[k]? ∧
    session.journal c k = []

/-- There is no item at all, and nothing is asked for. -/
def Silent (session : Session σ ε α) (c : Cursor ε α) : Prop :=
  ∀ k, session.poll c k = none ∧ session.journal c k = []

/-- The listing is cancelled at the first poll. -/
def CancelledAtPoll (session : Session σ ε α) : Prop :=
  session.service.isCancelled (session.meanwhile 0 session.start) = true

theorem Silent.not_onlyCancelled (h : session.Silent c) : ¬session.OnlyCancelled c := by
  intro hcancelled
  have hnone := (h 0).1
  rw [(hcancelled 0).1] at hnone
  cases hnone

theorem onlyCancelled_start (template : PageRequest) (h : session.CancelledAtPoll) :
    session.OnlyCancelled (.start template) :=
  poll_of_error (Cursor.next_of_cancelled (s := session.service.recorded) h)

theorem onlyCancelled_failing : session.OnlyCancelled (.failing (.cancelled 0)) :=
  poll_of_error rfl

theorem silent_finished : session.Silent .finished := poll_of_finished

end Session

/-! ### Streams of queries -/

namespace Query

variable {q : Query} {p : Plan} {s : Service σ ε α} {w : σ}

theorem stream_of_results (hplan : q.plan = .ok p) (hresults : p.isEmpty = false) :
    ∃ template, q.stream s w = .ok (.start template) := by
  obtain ⟨template, htemplate⟩ := p.exists_request hresults
  refine ⟨template, ?_⟩
  rw [stream_eq_ok hplan, cursor, htemplate]

/-- A query that can be run gives a stream. Where there is something to ask for and the query is
cancelled by the first poll, before or after the stream is made, then the stream reports that and
asks for nothing. So it does where there is nothing to ask for and the query is cancelled when
the stream is made. But where there is nothing to ask for and the query is not cancelled then, the
stream hands out nothing, whatever happens between that and the first poll. -/
theorem stream_cancelled_by_first_poll (hplan : q.plan = .ok p) (session : Session σ ε α) :
    ∃ c, q.stream session.service session.start = .ok c ∧
      (p.isEmpty = false → session.CancelledAtPoll → session.OnlyCancelled c) ∧
      (p.isEmpty = true → session.service.isCancelled session.start = true →
        session.OnlyCancelled c) ∧
      (p.isEmpty = true → session.service.isCancelled session.start = false →
        session.Silent c) := by
  cases hempty : p.isEmpty with
  | false =>
    obtain ⟨template, hstream⟩ :=
      stream_of_results (s := session.service) (w := session.start) hplan hempty
    exact ⟨_, hstream, fun _ => Session.onlyCancelled_start template, nofun, nofun⟩
  | true =>
    have hstream := stream_of_isEmpty (s := session.service) (w := session.start) hplan hempty
    refine ⟨_, hstream, nofun, ?_, ?_⟩
    · intro _ hcancelled
      rw [if_pos hcancelled]
      exact Session.onlyCancelled_failing
    · intro _ hgoes
      rw [if_neg (by rw [hgoes]; exact Bool.false_ne_true)]
      exact Session.silent_finished

/-- A listing of all tasks is cancelled between the making of its stream and the first poll. -/
theorem stream_cancelled_by_first_poll_of_tasks :
    let q := Query.ofEntity .task Scenario.noon
    let session : Session Bool String Nat :=
      ⟨⟨fun r w => (Script.answer ⟨[1], 1, none, none⟩ r, w), id⟩, fun _ _ => true, false⟩
    ∃ p c, q.plan = .ok p ∧ p.isEmpty = false ∧
      q.stream session.service session.start = .ok c ∧
      session.service.isCancelled session.start = false ∧ session.CancelledAtPoll ∧
      session.OnlyCancelled c := by
  intro q session
  have hplan : q.plan = .ok ⟨.matching .all, ⟨q.catalog.defaultSort, .ascending⟩, 50⟩ := rfl
  obtain ⟨c, hstream, honly, -, -⟩ := stream_cancelled_by_first_poll hplan session
  exact ⟨_, c, hplan, rfl, hstream, rfl, rfl, honly rfl rfl⟩

/-- The same for a listing of no tasks: its stream does not report the cancellation. -/
theorem stream_of_no_tasks_cancelled_late :
    let q := (Query.ofEntity .task Scenario.noon).filter ⟨"x", .constant (.boolean false)⟩
    let session : Session Bool String Nat :=
      ⟨⟨fun r w => (Script.answer ⟨[1], 1, none, none⟩ r, w), id⟩, fun _ _ => true, false⟩
    ∃ p c, q.plan = .ok p ∧ q.stream session.service session.start = .ok c ∧
      session.CancelledAtPoll ∧ session.Silent c ∧ ¬session.OnlyCancelled c := by
  intro q session
  have hplan : q.plan = .ok ⟨.nothing, ⟨q.catalog.defaultSort, .ascending⟩, 50⟩ := rfl
  have hsilent : session.Silent .finished := Session.silent_finished
  exact ⟨_, _, hplan, stream_of_isEmpty hplan rfl, rfl, hsilent, hsilent.not_onlyCancelled⟩

end Query
end Listing
