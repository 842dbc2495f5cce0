import Listing.Proofs.Paging.Polls

/-! # Pages of a listing

  A listing asks for its pages in order, so the fetcher's answer to each
  request is settled by the requests before it, however much it
  remembers of them. A page continues the listing if it arrives with
  items and these do not come up to the total of page 0. The listing
  asks for a page exactly if all pages before it continue the listing,
  and hands out their items before.

  `Stands` says where a listing is after any number of polls, and one
  step keeps it. Services that behave the same up to some page hand out
  the same pages before it.
-/

namespace Listing

/-! ### Fetchers -/

/-- What answers the requests of a listing. It may remember what it likes. -/
abbrev Fetcher (τ ε α : Type) := PageRequest → τ → Except ε (Page α) × τ

/-- What a listing finds around it. -/
structure Surroundings (τ : Type) where
  /-- What the fetcher remembers. -/
  memory : τ
  /-- The requests so far. -/
  requests : List PageRequest
  /-- The listing is cancelled. -/
  cancelled : Bool

variable {σ τ ε α : Type}

/-- The service of a fetcher; its requests cancel nothing. -/
def Fetcher.service (fetch : Fetcher τ ε α) : Service (Surroundings τ) ε α where
  fetch r w :=
    let answer := fetch r w.memory
    (answer.1, { w with memory := answer.2, requests := w.requests ++ [r] })
  isCancelled w := w.cancelled

/-- A listing that is read: what answers, what is asked for, and what the fetcher remembers at
the start. -/
structure Run (τ ε α : Type) where
  fetch : Fetcher τ ε α
  template : PageRequest
  memory : τ

namespace Run

open Cursor

variable (run : Run τ ε α)

/-! ### The pages -/

/-- What the fetcher remembers before the request for page `k`. -/
def memoryBefore : Nat → τ
  | 0 => run.memory
  | k + 1 => (run.fetch (run.template.at k) (memoryBefore k)).2

/-- The answer to the request for page `k`. -/
def answerAt (k : Nat) : Except ε (Page α) :=
  (run.fetch (run.template.at k) (run.memoryBefore k)).1

/-- The items of page `k`; none if its request fails. -/
def pageItems (k : Nat) : List α :=
  match run.answerAt k with
  | .ok p => p.items
  | .error _ => []

/-- The error of page `k`, if its request fails. -/
def failureAt (k : Nat) : Option (PagingError ε) :=
  match run.answerAt k with
  | .ok _ => none
  | .error e => some (.fetchFailed k e)

/-- The items of all pages before page `k`, in order. -/
def itemsBefore (k : Nat) : List α := (List.range k).flatMap run.pageItems

/-- The requests for all pages before page `k`, in order. -/
def requestsBefore (k : Nat) : List PageRequest := (List.range k).map run.template.at

/-- The surroundings before the request for page `k`. -/
def before (k : Nat) : Surroundings τ := ⟨run.memoryBefore k, run.requestsBefore k, false⟩

/-- Page `k` arrives, is not empty, and leaves the listing below the total of page 0. -/
def Continues (k : Nat) : Prop :=
  ∃ p first, run.answerAt k = .ok p ∧ p.items ≠ [] ∧ run.answerAt 0 = .ok first ∧
    (run.itemsBefore (k + 1)).length < first.total

/-- What is known of the total before the request for page `k`. -/
def Announced (k : Nat) : Option Nat → Prop
  | none => k = 0
  | some total => ∃ first, run.answerAt 0 = .ok first ∧ first.total = total

/-- The cursor when all pages before page `k` have arrived and `ready` is left of them. -/
def cursorAt (k : Nat) (total : Option Nat) (ready : List α) : Cursor ε α :=
  .reading run.template k (run.itemsBefore k).length total ready

/-! ### The polls -/

/-- Cursor and surroundings after some polls. -/
def stateAfter (polls : Nat) : Cursor ε α × Surroundings τ :=
  after run.fetch.service polls (.start run.template, run.before 0)

/-- What the poll of the given number hands out. -/
def poll (i : Nat) : Yield ε α :=
  Cursor.poll run.fetch.service (.start run.template) (run.before 0) i

/-- At some time there is a request for the page. -/
def AsksFor (page : Nat) : Prop := ∃ polls, page < (run.stateAfter polls).2.requests.length

/-! ### Small facts -/

variable {run} {k : Nat} {total : Option Nat} {p : Page α}

theorem pageItems_of_ok (h : run.answerAt k = .ok p) : run.pageItems k = p.items := by
  simp [pageItems, h]

theorem itemsBefore_succ (k : Nat) :
    run.itemsBefore (k + 1) = run.itemsBefore k ++ run.pageItems k := by
  simp [itemsBefore, List.range_succ]

theorem length_itemsBefore_le {m : Nat} (h : k ≤ m) :
    (run.itemsBefore k).length ≤ (run.itemsBefore m).length := by
  induction h with
  | refl => exact Nat.le_refl _
  | step _ ih =>
    rw [itemsBefore_succ, List.length_append]
    omega

theorem length_requests_before (run : Run τ ε α) (k : Nat) :
    (run.before k).requests.length = k := by
  simp [before, requestsBefore]

/-- The total that page `k` is measured by is that of page 0. -/
theorem Announced.first (h : run.Announced k total) (hp : run.answerAt k = .ok p) :
    ∃ first, run.answerAt 0 = .ok first ∧ first.total = total.getD p.total := by
  cases total with
  | none =>
    have hk : k = 0 := h
    exact ⟨p, hk ▸ hp, rfl⟩
  | some t => exact h

/-! ### One poll -/

theorem fetch_before (run : Run τ ε α) (k : Nat) :
    run.fetch.service.fetch (run.template.at k) (run.before k) =
      (run.answerAt k, run.before (k + 1)) := by
  have hrequests : run.requestsBefore (k + 1) = run.requestsBefore k ++ [run.template.at k] := by
    simp [requestsBefore, List.range_succ]
  rw [before, before, hrequests]
  rfl

/-- The poll that asks for page `k`, by the answer. -/
theorem next_of_ok (hp : run.answerAt k = .ok p) :
    next run.fetch.service (run.cursorAt k total []) (run.before k) =
      ((arrive run.template k (run.itemsBefore k).length total p).1,
        (arrive run.template k (run.itemsBefore k).length total p).2, run.before (k + 1)) := by
  simp only [cursorAt, next, request, fetch_before, hp]
  rfl

theorem next_of_error {e : ε} (he : run.answerAt k = .error e) :
    next run.fetch.service (run.cursorAt k total []) (run.before k) =
      (some (.error (.fetchFailed k e)), .finished, run.before (k + 1)) := by
  simp only [cursorAt, next, request, fetch_before, he]
  rfl

/-- The arrival of page `k`, by the total of page 0. -/
theorem arrive_eq {first : Page α} (hp : run.answerAt k = .ok p)
    (htotal : first.total = total.getD p.total) {x : α} {ready : List α}
    (hitems : p.items = x :: ready) :
    arrive run.template k (run.itemsBefore k).length total p =
      (some (.ok x),
        if first.total ≤ (run.itemsBefore (k + 1)).length then .finishing ready
        else run.cursorAt (k + 1) (some first.total) ready) := by
  have hlen : (run.itemsBefore (k + 1)).length =
      (run.itemsBefore k).length + p.items.length := by
    rw [itemsBefore_succ, pageItems_of_ok hp, List.length_append]
  rw [cursorAt, hlen, htotal]
  unfold arrive
  simp only [hitems]

/-- After a page that continues the listing the next one will be asked for. -/
theorem next_of_continues (h : run.Continues k) (ht : run.Announced k total) :
    ∃ x ready t, run.pageItems k = x :: ready ∧ run.Announced (k + 1) (some t) ∧
      next run.fetch.service (run.cursorAt k total []) (run.before k) =
        (some (.ok x), run.cursorAt (k + 1) (some t) ready, run.before (k + 1)) := by
  obtain ⟨p, first, hp, hne, hfirst, hlt⟩ := h
  obtain ⟨first', hfirst', htotal⟩ := ht.first hp
  rw [hfirst] at hfirst'
  cases hfirst'
  obtain ⟨x, ready, hitems⟩ := List.exists_cons_of_ne_nil hne
  refine ⟨x, ready, first.total, (pageItems_of_ok hp).trans hitems, ⟨first, hfirst, rfl⟩, ?_⟩
  rw [next_of_ok hp, arrive_eq hp htotal hitems, if_neg (Nat.not_le_of_lt hlt)]

/-- A page that does not continue the listing is the last one. Its request fails, or its items
are all that is left. -/
theorem next_of_not_continues (h : ¬run.Continues k) (ht : run.Announced k total) :
    ∃ y c, Settled c ∧
      next run.fetch.service (run.cursorAt k total []) (run.before k) =
        (y, c, run.before (k + 1)) ∧
      Delivers run.fetch.service (run.cursorAt k total []) (run.before k) (run.pageItems k)
        (run.failureAt k) (run.before (k + 1)) := by
  cases hp : run.answerAt k with
  | error e =>
    refine ⟨_, .finished, trivial, next_of_error hp, ?_⟩
    rw [pageItems, failureAt, hp]
    exact .failed (next_of_error hp)
  | ok p =>
    rw [pageItems_of_ok hp, failureAt, hp]
    cases hitems : p.items with
    | nil =>
      have hnext : next run.fetch.service (run.cursorAt k total []) (run.before k) =
          (none, .finished, run.before (k + 1)) := by
        rw [next_of_ok hp, arrive, hitems]
      exact ⟨none, .finished, trivial, hnext, .done hnext⟩
    | cons x ready =>
      obtain ⟨first, hfirst, htotal⟩ := ht.first hp
      have hend : first.total ≤ (run.itemsBefore (k + 1)).length :=
        Nat.le_of_not_lt fun hlt => h ⟨p, first, hp, by simp [hitems], hfirst, hlt⟩
      have hnext : next run.fetch.service (run.cursorAt k total []) (run.before k) =
          (some (.ok x), .finishing ready, run.before (k + 1)) := by
        rw [next_of_ok hp, arrive_eq hp htotal hitems, if_pos hend]
      exact ⟨_, .finishing ready, trivial, hnext, .item hnext (.finishing ready _)⟩

/-! ### All polls -/

/-- Where the listing stands after some polls. -/
inductive Stands (run : Run τ ε α) (polls : Nat) : Cursor ε α × Surroundings τ → Prop
  /-- The items of all pages before `page` have arrived; `taken` was handed out and `ready` is
  left. -/
  | reading {page : Nat} {total : Option Nat} {taken ready : List α}
      (hgo : ∀ k < page, run.Continues k) (ht : run.Announced page total)
      (hitems : run.itemsBefore page = taken ++ ready) (hpolls : taken.length = polls) :
      Stands run polls (run.cursorAt page total ready, run.before page)
  /-- Page `last` was the last. -/
  | settled {last : Nat} {c : Cursor ε α} (hgo : ∀ k < last, run.Continues k)
      (hend : ¬run.Continues last) (hc : Settled c) :
      Stands run polls (c, run.before (last + 1))

/-- One more poll. -/
theorem Stands.next {polls : Nat} {state : Cursor ε α × Surroundings τ}
    (h : run.Stands polls state) :
    run.Stands (polls + 1) (Cursor.next run.fetch.service state.1 state.2).2 := by
  cases h with
  | @reading page total taken ready hgo ht hitems hpolls =>
    cases ready with
    | cons x ready =>
      have htaken : run.itemsBefore page = (taken ++ [x]) ++ ready := by simp [hitems]
      exact .reading hgo ht htaken (by simp [hpolls])
    | nil =>
      -- This poll asks for `page`, and what comes of it depends on the answer alone.
      by_cases hpage : run.Continues page
      · obtain ⟨x, ready, t, hx, ht', hnext⟩ := next_of_continues hpage ht
        have hgo' : ∀ k < page + 1, run.Continues k := by
          intro k hk
          by_cases hlast : k = page
          · exact hlast ▸ hpage
          · exact hgo k (by omega)
        have htaken : run.itemsBefore (page + 1) = (taken ++ [x]) ++ ready := by
          simp [itemsBefore_succ, hitems, hx]
        rw [hnext]
        exact .reading hgo' ht' htaken (by simp [hpolls])
      · obtain ⟨y, c, hc, hnext, -⟩ := next_of_not_continues hpage ht
        rw [hnext]
        exact .settled hgo hpage hc
  | settled hgo hend hc =>
    obtain ⟨y, d, hd, -, hnext⟩ := hc.next
    rw [hnext]
    exact .settled hgo hend hd

theorem stateAfter_succ (polls : Nat) :
    run.stateAfter (polls + 1) =
      (Cursor.next run.fetch.service (run.stateAfter polls).1 (run.stateAfter polls).2).2 :=
  after_succ polls _

theorem stands (run : Run τ ε α) (polls : Nat) : run.Stands polls (run.stateAfter polls) := by
  induction polls with
  | zero =>
    have hnone : run.itemsBefore 0 = [] ++ [] := rfl
    have hgo : ∀ k < 0, run.Continues k := fun k hk => absurd hk (Nat.not_lt_zero k)
    have ht : run.Announced 0 none := rfl
    exact .reading hgo ht hnone rfl
  | succ polls ih =>
    rw [stateAfter_succ]
    exact ih.next

/-- A page is asked for if all pages before it continue the listing. -/
theorem asksFor_iff {page : Nat} : run.AsksFor page ↔ ∀ k < page, run.Continues k := by
  constructor
  · rintro ⟨polls, hpolls⟩ k hk
    have hstands := run.stands polls
    generalize run.stateAfter polls = state at hpolls hstands
    cases hstands with
    | @reading m total taken ready hgo =>
      rw [length_requests_before] at hpolls
      exact hgo k (by omega)
    | @settled last c hgo =>
      rw [length_requests_before] at hpolls
      exact hgo k (by omega)
  · intro hgo
    -- One poll more than there are items before the page takes the listing beyond it.
    apply Classical.byContradiction
    intro hnone
    have hstands := run.stands ((run.itemsBefore page).length + 1)
    have hpolls :
        ¬page < (run.stateAfter ((run.itemsBefore page).length + 1)).2.requests.length :=
      fun h => hnone ⟨_, h⟩
    generalize run.stateAfter ((run.itemsBefore page).length + 1) = state at hpolls hstands
    cases hstands with
    | @reading m total taken ready _ _ hitems htaken =>
      rw [length_requests_before] at hpolls
      have hle := run.length_itemsBefore_le (Nat.le_of_not_lt hpolls)
      rw [hitems, List.length_append, htaken] at hle
      omega
    | @settled last c _ hend =>
      rw [length_requests_before] at hpolls
      exact hend (hgo last (by omega))

/-- A listing that nobody cancels never says that it was cancelled. -/
theorem poll_ne_cancelled (run : Run τ ε α) (i page : Nat) :
    run.poll i ≠ some (.error (.cancelled page)) := by
  have hstands := run.stands i
  show (Cursor.next run.fetch.service (run.stateAfter i).1 (run.stateAfter i).2).1 ≠ _
  generalize run.stateAfter i = state at hstands
  cases hstands with
  | @reading k total taken ready =>
    cases ready with
    | cons x ready => exact nofun
    | nil =>
      cases hp : run.answerAt k with
      | error e =>
        rw [next_of_error hp]
        exact nofun
      | ok p =>
        rw [next_of_ok hp]
        exact arrive_ne_error _ _ _ _ _ _
  | settled _ _ hc =>
    obtain ⟨y, d, -, hy, hnext⟩ := hc.next
    rw [hnext]
    exact hy _

/-! ### What arrives before a page -/

/-- A service that behaves the same for all pages before `page` hands out their items, whatever
comes then. -/
theorem exists_delivers_before {s : Service (Surroundings τ) ε α} {page : Nat}
    (hs : ∀ k < page, ∀ total,
      Cursor.next s (run.cursorAt k total []) (run.before k) =
        Cursor.next run.fetch.service (run.cursorAt k total []) (run.before k))
    (hgo : ∀ k < page, run.Continues k) :
    ∃ total, run.Announced page total ∧ ∀ items failure w',
      Delivers s (run.cursorAt page total []) (run.before page) items failure w' →
        Delivers s (.start run.template) (run.before 0) (run.itemsBefore page ++ items) failure
          w' := by
  -- What comes after the pages stays open, so each page can be put in front of the next.
  induction page with
  | zero => exact ⟨none, rfl, fun _ _ _ h => h⟩
  | succ page ih =>
    obtain ⟨total, ht, hbefore⟩ := ih (fun k hk => hs k (by omega)) (fun k hk => hgo k (by omega))
    obtain ⟨x, ready, t, hx, ht', hnext⟩ := next_of_continues (hgo page (Nat.lt_succ_self page)) ht
    refine ⟨some t, ht', fun items failure w' hrest => ?_⟩
    rw [itemsBefore_succ, hx, List.append_assoc]
    apply hbefore
    exact .item ((hs page (Nat.lt_succ_self page) total).trans hnext) (.ready ready hrest)

/-- The listing hands out the items of all pages before one that it asks for. -/
theorem poll_of_asksFor {page : Nat} (h : run.AsksFor page) {i : Nat}
    (hi : i < (run.itemsBefore page).length) :
    run.poll i = ((run.itemsBefore page)[i]?).map .ok := by
  obtain ⟨total, -, hbefore⟩ :=
    exists_delivers_before (s := run.fetch.service) (fun _ _ _ => rfl) (asksFor_iff.mp h)
  obtain ⟨items, failure, w', hrest⟩ :=
    exists_delivers run.fetch.service (run.cursorAt page total []) (run.before page)
  rw [poll, (hbefore _ _ _ hrest).poll_eq, outputs_append,
    List.getElem?_append_left (by rwa [List.length_map]), List.getElem?_map]

/-- A listing hands out the items of all pages up to the last, and asks for all of them. -/
theorem delivers_all {last : Nat} (hgo : ∀ k < last, run.Continues k)
    (hend : ¬run.Continues last) :
    Delivers run.fetch.service (.start run.template) (run.before 0) (run.itemsBefore (last + 1))
      (run.failureAt last) (run.before (last + 1)) := by
  obtain ⟨total, ht, hbefore⟩ :=
    exists_delivers_before (s := run.fetch.service) (fun _ _ _ => rfl) hgo
  obtain ⟨_, _, -, -, hlast⟩ := next_of_not_continues hend ht
  rw [itemsBefore_succ]
  exact hbefore _ _ _ hlast

end Run
end Listing
