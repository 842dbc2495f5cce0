import Listing.Proofs.Paging.Pages
import Listing.Scenario.Script

/-! # Cancellation of a listing

  A listing may be cancelled between any two of its polls, or while one
  of its requests is on its way. What it hands out then is measured by
  the same listing left alone: all pages up to the first that had not
  arrived, whole, and then one error that names this page. Page 0 is
  always asked for, so before the first poll this is the error alone. A
  listing that does not ask for another page anyway goes on as if
  nothing had happened.
-/

namespace Listing

variable {τ ε α : Type}

/-- The service of a fetcher where the listing is cancelled while the request for a page is on
its way; the answer to this request is up to `late`. -/
def Fetcher.interrupted (fetch : Fetcher τ ε α) (page : Nat) (late : Fetcher τ ε α) :
    Service (Surroundings τ) ε α where
  fetch r w :=
    if w.requests.length = page then
      let answer := late r w.memory
      (answer.1, ⟨answer.2, w.requests ++ [r], true⟩)
    else fetch.service.fetch r w
  isCancelled w := w.cancelled

/-- When a listing is cancelled. -/
inductive Moment (τ ε α : Type)
  /-- After this many polls and before the next. -/
  | betweenPolls (polls : Nat)
  /-- While the request for a page is on its way; `late` answers it. -/
  | inFlight (page : Nat) (late : Fetcher τ ε α)

namespace Run

open Cursor

variable (run : Run τ ε α)

/-! ### The listing cancelled -/

/-- The first page that has not arrived when the listing is cancelled. -/
def firstMissing : Moment τ ε α → Nat
  | .betweenPolls polls => (run.stateAfter polls).2.requests.length
  | .inFlight page _ => page

/-- The error that ends the cancelled listing. A request that fails is reported as such, even if
it fails too late. -/
def ending : Moment τ ε α → PagingError ε
  | .betweenPolls polls => .cancelled (run.stateAfter polls).2.requests.length
  | .inFlight page late =>
    match (late (run.template.at page) (run.memoryBefore page)).1 with
    | .ok _ => .cancelled page
    | .error cause => .fetchFailed page cause

/-- What the poll of the given number hands out if the listing is cancelled. -/
def cancelledPoll (moment : Moment τ ε α) (i : Nat) : Yield ε α :=
  match moment with
  | .betweenPolls polls =>
    if i < polls then run.poll i
    else
      let (c, w) := run.stateAfter polls
      Cursor.poll run.fetch.service c { w with cancelled := true } (i - polls)
  | .inFlight page late =>
    Cursor.poll (run.fetch.interrupted page late) (.start run.template) (run.before 0) i

variable {run}

/-! ### Cancellation in flight -/

/-- Only the request for the page that is interrupted goes another way. -/
theorem next_interrupted {page : Nat} {late : Fetcher τ ε α} (c : Cursor ε α)
    {w : Surroundings τ} (h : w.requests.length ≠ page) :
    Cursor.next (run.fetch.interrupted page late) c w = Cursor.next run.fetch.service c w := by
  have hfetch : ∀ r, (run.fetch.interrupted page late).fetch r w =
      run.fetch.service.fetch r w := fun r => if_neg h
  cases c with
  | reading template k received total ready =>
    cases ready with
    | nil =>
      simp only [Cursor.next, request, hfetch]
      rfl
    | cons x ready => rfl
  | finishing ready => cases ready <;> rfl
  | failing | finished => rfl

theorem delivers_interrupted {page : Nat} (late : Fetcher τ ε α) (h : run.AsksFor page) :
    ∃ w', Delivers (run.fetch.interrupted page late) (.start run.template) (run.before 0)
      (run.itemsBefore page) (some (run.ending (.inFlight page late))) w' := by
  have hs : ∀ k < page, ∀ total,
      Cursor.next (run.fetch.interrupted page late) (run.cursorAt k total []) (run.before k) =
        Cursor.next run.fetch.service (run.cursorAt k total []) (run.before k) :=
    fun k hk _ => next_interrupted _ (by rw [length_requests_before]; exact Nat.ne_of_lt hk)
  obtain ⟨total, -, hbefore⟩ := exists_delivers_before hs (asksFor_iff.mp h)
  -- The pages before come as always, so the answer to this one request remains.
  suffices hlate : ∃ w', Cursor.next (run.fetch.interrupted page late)
      (run.cursorAt page total []) (run.before page) =
        (some (.error (run.ending (.inFlight page late))), .finished, w') by
    obtain ⟨w', hlate⟩ := hlate
    have hall := hbefore _ _ _ (.failed hlate)
    rw [List.append_nil] at hall
    exact ⟨w', hall⟩
  have hfetch : (run.fetch.interrupted page late).fetch (run.template.at page) (run.before page) =
      ((late (run.template.at page) (run.memoryBefore page)).1,
        ⟨(late (run.template.at page) (run.memoryBefore page)).2,
          run.requestsBefore page ++ [run.template.at page], true⟩) :=
    if_pos (length_requests_before run page)
  simp only [cursorAt, Cursor.next, request, hfetch, ending]
  cases (late (run.template.at page) (run.memoryBefore page)).1 with
  | error cause => exact ⟨_, rfl⟩
  | ok p => exact ⟨_, rfl⟩

/-- A request that never goes out cannot be interrupted. -/
theorem Stands.next_interrupted {page polls : Nat} {state : Cursor ε α × Surroundings τ}
    (hstands : run.Stands polls state) (late : Fetcher τ ε α) (h : ¬run.AsksFor page) :
    Cursor.next (run.fetch.interrupted page late) state.1 state.2 =
      Cursor.next run.fetch.service state.1 state.2 := by
  cases hstands with
  | @reading m total taken ready hgo =>
    have hne : m ≠ page := fun heq => h (heq ▸ asksFor_iff.mpr hgo)
    exact Run.next_interrupted _ (by rwa [length_requests_before])
  | settled _ _ hc =>
    obtain ⟨y, d, -, -, hnext⟩ := hc.next
    rw [hnext, hnext]

theorem after_interrupted {page : Nat} (late : Fetcher τ ε α) (h : ¬run.AsksFor page)
    (polls : Nat) :
    after (run.fetch.interrupted page late) polls (.start run.template, run.before 0) =
      run.stateAfter polls := by
  induction polls with
  | zero => rfl
  | succ polls ih =>
    rw [after_succ, ih, stateAfter_succ, (run.stands polls).next_interrupted late h]

theorem poll_interrupted {page : Nat} (late : Fetcher τ ε α) (h : ¬run.AsksFor page) (i : Nat) :
    Cursor.poll (run.fetch.interrupted page late) (.start run.template) (run.before 0) i =
      run.poll i := by
  unfold Cursor.poll
  rw [after_interrupted late h]
  exact congrArg Prod.fst ((run.stands i).next_interrupted late h)

/-! ### Cancellation between polls -/

/-- A cancelled cursor that would ask for another page hands out what is ready, and then the
error. -/
theorem delivers_cancelled {page received : Nat} {total : Option Nat} (ready : List α)
    {w : Surroundings τ} (hw : w.cancelled = true) :
    Delivers run.fetch.service (.reading run.template page received total ready) w ready
      (some (.cancelled page)) w := by
  have herror : Cursor.next run.fetch.service
      (.reading run.template page received total []) w =
        (some (.error (.cancelled page)), .finished, w) := if_pos hw
  have hrest := Delivers.ready ready (.failed herror)
  rwa [List.append_nil] at hrest

/-- Between polls either a page is still missing, and the listing stops before it, or nothing is
asked for any more. -/
theorem cancelledPoll_betweenPolls (run : Run τ ε α) (polls : Nat) :
    let page := (run.stateAfter polls).2.requests.length
    run.AsksFor page ∧
        (∀ i, run.cancelledPoll (.betweenPolls polls) i =
          (outputs (run.itemsBefore page) (some (.cancelled page)))[i]?) ∨
      ¬run.AsksFor page ∧ ∀ i, run.cancelledPoll (.betweenPolls polls) i = run.poll i := by
  have hstands := run.stands polls
  have hpoll : ∀ i, run.poll (polls + i) = Cursor.poll run.fetch.service
      (run.stateAfter polls).1 (run.stateAfter polls).2 i := poll_add _ _ polls
  simp only [cancelledPoll]
  generalize run.stateAfter polls = state at hstands hpoll ⊢
  cases hstands with
  | @reading page total taken ready hgo ht hitems htaken =>
    have hasks : run.AsksFor page := asksFor_iff.mpr hgo
    rw [length_requests_before]
    refine .inl ⟨hasks, fun i => ?_⟩
    by_cases hi : i < polls
    · -- What was handed out before is the beginning of the pages that have arrived.
      have hlt : i < (run.itemsBefore page).length := by
        rw [hitems, List.length_append, htaken]
        omega
      rw [if_pos hi, poll_of_asksFor hasks hlt, outputs,
        List.getElem?_append_left (by rwa [List.length_map]), List.getElem?_map]
    · rw [if_neg hi, hitems, outputs_append,
        List.getElem?_append_right (by rw [List.length_map]; omega), List.length_map, htaken]
      exact (delivers_cancelled ready rfl).poll_eq _
  | @settled last c hgo hend hc =>
    rw [length_requests_before]
    refine .inr ⟨fun hasks => hend (asksFor_iff.mp hasks last (Nat.lt_succ_self last)), ?_⟩
    intro i
    by_cases hi : i < polls
    · rw [if_pos hi]
    · obtain ⟨d, rfl⟩ := Nat.exists_eq_add_of_le (Nat.le_of_not_lt hi)
      rw [if_neg hi, hpoll, Nat.add_sub_cancel_left]
      exact hc.poll_eq _ _ _ _ d

/-! ### Cancellation before the first poll -/

/-- Page 0 is always asked for. -/
theorem asksFor_zero (run : Run τ ε α) : run.AsksFor 0 :=
  asksFor_iff.mpr fun k hk => absurd hk (Nat.not_lt_zero k)

/-- A listing that is cancelled before its first poll hands out no item, only the error that
names page 0. -/
theorem cancelledPoll_before_first (run : Run τ ε α) (i : Nat) :
    run.cancelledPoll (.betweenPolls 0) i = [Except.error (.cancelled 0)][i]? := by
  rcases run.cancelledPoll_betweenPolls 0 with ⟨-, hcancelled⟩ | ⟨hnot, -⟩
  · exact hcancelled i
  · exact absurd run.asksFor_zero hnot

/-! ### Cancellation at any moment -/

/-- A cancelled listing hands out whole pages. Take the first page that has not arrived when the
listing is cancelled. The listing left alone asks for this page, at that time or later, exactly
if every page before it arrives with items and leaves the listing below the total of page 0; for
page 0 nothing is to be checked. If it asks for the page, then all pages before it have arrived
with items, and exactly these items are handed out; then comes one error and nothing else, and
the error says that the listing was cancelled before this page, or that the request for it
failed while on its way. The listing left alone begins with the same items. If it never asks for
the page, then cancellation changes nothing, and no error says otherwise. -/
theorem cancelled_run (run : Run τ ε α) (moment : Moment τ ε α) :
    let page := run.firstMissing moment
    (run.AsksFor page ↔ ∀ k < page, run.Continues k) ∧
    (run.AsksFor page →
      (∀ i, run.cancelledPoll moment i =
        (outputs (run.itemsBefore page) (some (run.ending moment)))[i]?) ∧
      (∀ i < (run.itemsBefore page).length, run.poll i = ((run.itemsBefore page)[i]?).map .ok) ∧
      ∀ k < page, ∃ p, run.answerAt k = .ok p ∧ p.items ≠ []) ∧
    (¬run.AsksFor page → ∀ i, run.cancelledPoll moment i = run.poll i ∧
      ∀ k, run.cancelledPoll moment i ≠ some (.error (.cancelled k))) := by
  intro page
  -- The listing left alone is the same for every moment; only the cancelled one differs.
  have hpages : run.AsksFor page → ∀ k < page, ∃ p, run.answerAt k = .ok p ∧ p.items ≠ [] := by
    intro hasks k hk
    obtain ⟨p, -, hp, hne, -⟩ := asksFor_iff.mp hasks k hk
    exact ⟨p, hp, hne⟩
  suffices hmoment : (run.AsksFor page → ∀ i, run.cancelledPoll moment i =
        (outputs (run.itemsBefore page) (some (run.ending moment)))[i]?) ∧
      (¬run.AsksFor page → ∀ i, run.cancelledPoll moment i = run.poll i) by
    refine ⟨asksFor_iff,
      fun hasks => ⟨hmoment.1 hasks, fun _ => poll_of_asksFor hasks, hpages hasks⟩, ?_⟩
    intro hnot i
    have hsame := hmoment.2 hnot i
    exact ⟨hsame, fun k => hsame ▸ run.poll_ne_cancelled i k⟩
  cases moment with
  | betweenPolls polls =>
    rcases run.cancelledPoll_betweenPolls polls with ⟨hasks, hcancelled⟩ | ⟨hnot, hsame⟩
    · exact ⟨fun _ => hcancelled, fun hnot => absurd hasks hnot⟩
    · exact ⟨fun hasks => absurd hasks hnot, fun _ => hsame⟩
  | inFlight m late =>
    constructor
    · intro hasks
      obtain ⟨w', hdelivers⟩ := delivers_interrupted late hasks
      exact hdelivers.poll_eq
    · intro hnot
      exact poll_interrupted late hnot

/-- A page that is on its way is dropped whole. -/
example :
    let run : Run Unit String Nat := ⟨fun r m => (Script.answer ⟨[2, 2, 2], 6, none, none⟩ r, m),
      ⟨.all, ⟨⟨.task, .summary, 6⟩, .ascending⟩, 0, 2⟩, ()⟩
    (List.range 4).map (run.cancelledPoll (.inFlight 1 run.fetch)) =
      [some (.ok 0), some (.ok 1), some (.error (.cancelled 1)), none] := by
  rfl

end Run
end Listing
