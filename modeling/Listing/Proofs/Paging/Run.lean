import Listing.Proofs.Paging.Pages
import Listing.Scenario.Script
import Mathlib.Data.Nat.Find

/-! # Runs over all pages

  A service that answers requests by a fixed rule, and is never
  cancelled, is read up to its last page: the first that fails, is
  empty, or brings the items up to the total of page 0. Such a page
  exists because each page before it brings an item at least. The
  listing hands out the items of all pages up to the last, once and in
  order, and asks for each of these pages once.
-/

namespace Listing
namespace PageRun

open Cursor

variable {ε α : Type} (answer : PageRequest → Except ε (Page α)) (template : PageRequest)

/-! ### The pages of a service -/

/-- The service that gives the answers, notes all requests, and is never cancelled. -/
def service : Service (List PageRequest) ε α where
  fetch r log := (answer r, log ++ [r])
  isCancelled _ := false

/-- The items of a page; none if its request fails. -/
def pageItems (k : Nat) : List α :=
  match answer (template.at k) with
  | .ok p => p.items
  | .error _ => []

/-- The items of all pages before page `k`, in order. -/
def itemsBefore (k : Nat) : List α := (List.range k).flatMap (pageItems answer template)

/-- The requests for all pages before page `k`, in order. -/
def requestsBefore (k : Nat) : List PageRequest := (List.range k).map template.at

/-- Page `k` fails, is empty, or brings the items up to the total of page 0. -/
def EndsAt (k : Nat) : Prop :=
  match answer (template.at k) with
  | .error _ => True
  | .ok p => p.items = [] ∨
      ∃ first, answer (template.at 0) = .ok first ∧
        first.total ≤ (itemsBefore answer template k ++ p.items).length

/-- Page `n` ends the listing, and no page before it does. -/
structure LastPage (n : Nat) : Prop where
  /-- The listing ends here. -/
  ends : EndsAt answer template n
  /-- It does not end earlier. -/
  first : ∀ k < n, ¬EndsAt answer template k

/-- What a listing hands out whose last page is page `n`. -/
def handedOut (n : Nat) : List (Except (PagingError ε) α) :=
  match answer (template.at n) with
  | .ok p => (itemsBefore answer template n ++ p.items).map .ok
  | .error e => (itemsBefore answer template n).map .ok ++ [.error (.fetchFailed n e)]

/-- What reading a listing at once results in whose last page is page `n`. -/
def result (n : Nat) : Except (PagingError ε) (List α) :=
  match answer (template.at n) with
  | .ok p => .ok (itemsBefore answer template n ++ p.items)
  | .error e => .error (.fetchFailed n e)

variable {answer template}

theorem pageItems_of_ok {k : Nat} {p : Page α} (hp : answer (template.at k) = .ok p) :
    pageItems answer template k = p.items := by
  simp [pageItems, hp]

theorem pageItems_of_error {k : Nat} {e : ε} (he : answer (template.at k) = .error e) :
    pageItems answer template k = [] := by
  simp [pageItems, he]

theorem itemsBefore_succ (k : Nat) :
    itemsBefore answer template (k + 1) =
      itemsBefore answer template k ++ pageItems answer template k := by
  simp [itemsBefore, List.range_succ, List.flatMap_append]

/-! ### The last page exists -/

/-- Every page that does not end the listing brings an item. -/
theorem le_length_itemsBefore {n : Nat} (h : ∀ k < n, ¬EndsAt answer template k) :
    n ≤ (itemsBefore answer template n).length := by
  induction n with
  | zero => exact Nat.zero_le _
  | succ n ih =>
    have hprev := ih fun k hk => h k (by omega)
    have hn := h n (Nat.lt_succ_self n)
    have hpos : 0 < (pageItems answer template n).length := by
      unfold EndsAt at hn
      split at hn
      · exact absurd trivial hn
      · next p hp =>
        rw [pageItems_of_ok hp, List.length_pos_iff]
        exact fun hnil => hn (.inl hnil)
    rw [itemsBefore_succ, List.length_append]
    omega

/-- Some page ends the listing: one before page `max 1 total` if page 0 is there to announce
a total, and page 0 itself if it fails. -/
theorem exists_endsAt (answer : PageRequest → Except ε (Page α)) (template : PageRequest) :
    ∃ k, EndsAt answer template k ∧
      ∀ first, answer (template.at 0) = .ok first → k < max 1 first.total := by
  cases h0 : answer (template.at 0) with
  | error e => exact ⟨0, by simp [EndsAt, h0], nofun⟩
  | ok first =>
    by_contra hnone
    have hopen : ∀ k < max 1 first.total, ¬EndsAt answer template k := by
      intro k hk hends
      refine hnone ⟨k, hends, ?_⟩
      rintro _ ⟨⟩
      exact hk
    -- The page that brings item number `total` would be the last one.
    obtain ⟨m, hm⟩ : ∃ m, max 1 first.total = m + 1 := ⟨max 1 first.total - 1, by omega⟩
    rw [hm] at hopen
    have hlen := le_length_itemsBefore hopen
    refine hopen m (Nat.lt_succ_self m) ?_
    rw [itemsBefore_succ] at hlen
    unfold EndsAt
    split
    · trivial
    · next p hp =>
      rw [pageItems_of_ok hp] at hlen
      exact .inr ⟨first, h0, by omega⟩

theorem exists_lastPage (answer : PageRequest → Except ε (Page α)) (template : PageRequest) :
    ∃ n, LastPage answer template n ∧
      ∀ first, answer (template.at 0) = .ok first → n < max 1 first.total := by
  classical
  obtain ⟨k, hk, hbound⟩ := exists_endsAt answer template
  have hex : ∃ k, EndsAt answer template k := ⟨k, hk⟩
  refine ⟨Nat.find hex, ⟨Nat.find_spec hex, fun _ => Nat.find_min hex⟩, ?_⟩
  intro first hfirst
  exact Nat.lt_of_le_of_lt (Nat.find_min' hex hk) (hbound first hfirst)

/-! ### Reading to the last page -/

/-- The error of the last page, if its request fails. -/
def failureAt (answer : PageRequest → Except ε (Page α)) (template : PageRequest) (n : Nat) :
    Option (PagingError ε) :=
  match answer (template.at n) with
  | .ok _ => none
  | .error e => some (.fetchFailed n e)

/-- The listing of a service, whose fetcher has nothing to remember. -/
def run (answer : PageRequest → Except ε (Page α)) (template : PageRequest) : Run Unit ε α :=
  ⟨fun r memory => (answer r, memory), template, ()⟩

/-- Before the last page every page continues the listing. Page 0 is among them, so that there
is a total to compare with. -/
theorem LastPage.continues {n : Nat} (h : LastPage answer template n) :
    ∀ k < n, (run answer template).Continues k := by
  intro k hk
  have harrives : ∀ j < n, ∃ p, answer (template.at j) = .ok p := by
    intro j hj
    cases hp : answer (template.at j) with
    | error e => exact absurd (by simp [EndsAt, hp]) (h.first j hj)
    | ok p => exact ⟨p, rfl⟩
  obtain ⟨first, hfirst⟩ := harrives 0 (by omega)
  obtain ⟨p, hp⟩ := harrives k hk
  have hopen := h.first k hk
  simp only [EndsAt, hp, not_or, not_exists, not_and, Nat.not_le] at hopen
  refine ⟨p, first, hp, hopen.1, hfirst, ?_⟩
  have hitems : itemsBefore answer template (k + 1) =
      itemsBefore answer template k ++ p.items := by
    rw [itemsBefore_succ, pageItems_of_ok hp]
  show (itemsBefore answer template (k + 1)).length < first.total
  rw [hitems]
  exact hopen.2 first hfirst

theorem LastPage.not_continues {n : Nat} (h : LastPage answer template n) :
    ¬(run answer template).Continues n := by
  rintro ⟨p, first, hp, hne, hfirst, hlt⟩
  have hp' : answer (template.at n) = .ok p := hp
  have hfirst' : answer (template.at 0) = .ok first := hfirst
  have hlt' : (itemsBefore answer template (n + 1)).length < first.total := hlt
  rw [itemsBefore_succ, pageItems_of_ok hp'] at hlt'
  have hends := h.ends
  simp only [EndsAt, hp'] at hends
  rcases hends with hnil | ⟨first'', hfirst'', hle⟩
  · exact hne hnil
  · rw [hfirst'] at hfirst''
    cases hfirst''
    omega

/-- A service that is never cancelled does without the mark of cancellation. -/
theorem next_service {c d : Cursor ε α} {w w' : Surroundings Unit} {y : Yield ε α}
    (hw : w.cancelled = false)
    (h : next (run answer template).fetch.service c w = (y, d, w')) :
    next (service answer) c w.requests = (y, d, w'.requests) ∧ w'.cancelled = false := by
  obtain ⟨memory, requests, cancelled⟩ := w
  cases hw
  -- Only the request for a page looks at the surroundings at all.
  cases c with
  | reading template' page received total ready =>
    cases ready with
    | cons x ready => cases h; exact ⟨rfl, rfl⟩
    | nil =>
      cases hp : answer (template'.at page) with
      | error e =>
        simp only [next, request, Fetcher.service, run, hp] at h
        cases h
        exact ⟨by simp [next, request, service, hp], rfl⟩
      | ok p =>
        simp only [next, request, Fetcher.service, run, hp] at h
        cases h
        exact ⟨by simp [next, request, service, hp], rfl⟩
  | finishing ready => cases ready <;> cases h <;> exact ⟨rfl, rfl⟩
  | failing | finished => cases h; exact ⟨rfl, rfl⟩

theorem delivers_service {c : Cursor ε α} {w w' : Surroundings Unit} {items : List α}
    {failure : Option (PagingError ε)} (hw : w.cancelled = false)
    (h : Delivers (run answer template).fetch.service c w items failure w') :
    Delivers (service answer) c w.requests items failure w'.requests := by
  induction h with
  | done hnext => exact .done (next_service hw hnext).1
  | failed hnext => exact .failed (next_service hw hnext).1
  | item hnext _ ih =>
    obtain ⟨hnext', hv⟩ := next_service hw hnext
    exact .item hnext' (ih hv)

/-- All that a listing hands out, and all the requests that it takes. -/
theorem delivers_all {n : Nat} (hlast : LastPage answer template n) :
    Delivers (service answer) (.start template) [] (itemsBefore answer template (n + 1))
      (failureAt answer template n) (requestsBefore template (n + 1)) :=
  delivers_service rfl (Run.delivers_all hlast.continues hlast.not_continues)

/-! ### Whole runs -/

theorem outputs_eq_handedOut (n : Nat) :
    outputs (itemsBefore answer template (n + 1)) (failureAt answer template n) =
      handedOut answer template n := by
  rw [itemsBefore_succ, outputs, failureAt, handedOut]
  cases hn : answer (template.at n) with
  | ok p => simp [pageItems_of_ok hn]
  | error e => simp [pageItems_of_error hn]

theorem gathered_eq_result (n : Nat) :
    gathered (itemsBefore answer template (n + 1)) (failureAt answer template n) =
      result answer template n := by
  rw [itemsBefore_succ, failureAt, result]
  cases hn : answer (template.at n) with
  | ok p => simp [gathered, pageItems_of_ok hn]
  | error e => rfl

theorem page_at {k : Nat} (hk : k < UInt64.size) (r : PageRequest) :
    (r.at k).page.toNat = k := by
  simp [PageRequest.at, Nat.mod_eq_of_lt hk]

/-- Whatever a service answers, its listing has a last page `n`, which comes before page
`max 1 total` of the total that page 0 announces. Poll by poll the listing hands out the items
of the pages up to `n`, or of those before `n` and then the failure of page `n`, and nothing
ever after; it takes the requests for pages 0 to `n`, once each, and read at once it
results in the same items or the same failure. -/
theorem run_exact (answer : PageRequest → Except ε (Page α)) (template : PageRequest) :
    ∃ n, LastPage answer template n ∧
      (∀ first, answer (template.at 0) = .ok first → n < max 1 first.total) ∧
      (∀ k, poll (service answer) (.start template) [] k =
        (handedOut answer template n)[k]?) ∧
      (∀ k, (handedOut answer template n).length < k →
        (after (service answer) k (.start template, [])).2 = requestsBefore template (n + 1)) ∧
      drain (service answer) (.start template) [] =
        (result answer template n, requestsBefore template (n + 1)) ∧
      ∀ first, answer (template.at 0) = .ok first → first.total < UInt64.size →
        ∀ k ≤ n, (template.at k).page.toNat = k := by
  obtain ⟨n, hlast, hbound⟩ := exists_lastPage answer template
  have hall := delivers_all hlast
  refine ⟨n, hlast, hbound, ?_, ?_, ?_, ?_⟩
  · intro k
    rw [hall.poll_eq, outputs_eq_handedOut]
  · intro k hk
    exact hall.after_eq (by rwa [outputs_eq_handedOut])
  · rw [hall.drain_eq, gathered_eq_result]
  · intro first hfirst htotal k hk
    have hn := hbound first hfirst
    exact page_at (by rw [UInt64.size] at htotal ⊢; omega) template

/-- Two pages arrive before an empty one ends a listing whose total was overstated. -/
example : result (Script.answer ⟨[2, 1, 0, 4], 9, none, none⟩)
    ⟨.all, ⟨⟨.task, .summary, 6⟩, .ascending⟩, 0, 50⟩ 2 = .ok [0, 1, 2] := by decide

end PageRun
end Listing
