import Listing.Proofs.Paging.Run
import Listing.Proofs.Query.Count
import Listing.Proofs.Query.Planning
import Mathlib.Algebra.Order.Floor.Div

/-! # Complete collections

  An honest server has a list of items, cuts it into pages of the size
  that it is asked for, and announces the length of the list. Whatever
  the page size, collecting from it gives the whole list, with as many
  requests as the list has pages, or one if it is empty. The listing
  ends with the page that reaches the end of the list: no page before
  does, and none after is asked for.
-/

namespace Listing
namespace HonestServer

open Cursor PageRun

variable {ε α : Type} {items : List α} {template : PageRequest}

/-- The answer to a request: the items from the page's first place up to that of the next page,
or up to the end. -/
def answer (ε : Type) (items : List α) (r : PageRequest) : Except ε (Page α) :=
  let first := r.page.toNat * r.pageSize.toNat
  let last := (r.page.toNat + 1) * r.pageSize.toNat
  .ok ⟨items.length, items.extract first (min last items.length)⟩

/-- How many pages are asked for. -/
def pageCount (items : List α) (pageSize : UInt64) : Nat :=
  max 1 (items.length ⌈/⌉ pageSize.toNat)

/-! ### Pages -/

/-- The end of the list cuts off nothing that is there. -/
theorem extract_min_length (items : List α) (first last : Nat) :
    items.extract first (min last items.length) = (items.drop first).take (last - first) := by
  rw [List.extract_eq_take_drop, List.take_eq_take_iff, List.length_drop]
  omega

theorem answer_at {k : Nat} (hk : k < UInt64.size) :
    answer ε items (template.at k) =
      .ok ⟨items.length, (items.drop (k * template.pageSize.toNat)).take
        template.pageSize.toNat⟩ := by
  have hsize : (template.at k).pageSize = template.pageSize := rfl
  have hwidth : (k + 1) * template.pageSize.toNat - k * template.pageSize.toNat =
      template.pageSize.toNat := by
    rw [Nat.add_mul, Nat.one_mul, Nat.add_sub_cancel_left]
  rw [answer, page_at hk, hsize]
  simp only [extract_min_length, hwidth]

/-- The pages before page `k` are a beginning of the list. -/
theorem itemsBefore_eq_take {k : Nat} (hk : k ≤ UInt64.size) :
    itemsBefore (answer ε items) template k = items.take (k * template.pageSize.toNat) := by
  induction k with
  | zero => simp [itemsBefore]
  | succ k ih =>
    have hprev := ih (by omega)
    rw [itemsBefore_succ, hprev, pageItems_of_ok (answer_at (by omega)), Nat.add_mul, Nat.one_mul,
      List.take_add]

/-- A page ends the listing if it reaches the end of the list. -/
theorem endsAt_iff {k : Nat} (hk : k < UInt64.size) (hsize : 0 < template.pageSize.toNat) :
    EndsAt (answer ε items) template k ↔ items.length ≤ (k + 1) * template.pageSize.toNat := by
  have hfirst : answer ε items (template.at 0) = _ := answer_at (by decide)
  have hlength : (itemsBefore (answer ε items) template k ++
      (items.drop (k * template.pageSize.toNat)).take template.pageSize.toNat).length =
        min ((k + 1) * template.pageSize.toNat) items.length := by
    rw [itemsBefore_eq_take (Nat.le_of_lt hk), ← List.take_add, List.length_take, Nat.add_mul,
      Nat.one_mul]
  simp only [EndsAt, answer_at hk]
  constructor
  · rintro (hnil | ⟨first, hanswer, hle⟩)
    · -- An empty page lies behind the end of the list.
      have hlen := congrArg List.length hnil
      rw [List.length_take, List.length_drop, List.length_nil] at hlen
      rw [Nat.add_mul]
      omega
    · rw [hfirst] at hanswer
      cases hanswer
      have hall : items.length ≤ min ((k + 1) * template.pageSize.toNat) items.length :=
        hlength ▸ hle
      exact (Nat.le_min.mp hall).1
  · intro hle
    have hall : items.length ≤ min ((k + 1) * template.pageSize.toNat) items.length :=
      Nat.le_min.mpr ⟨hle, Nat.le_refl _⟩
    exact .inr ⟨_, hfirst, hlength ▸ hall⟩

/-! ### The last page -/

/-- Even an empty list has a page. -/
theorem one_le_pageCount (items : List α) (pageSize : UInt64) : 1 ≤ pageCount items pageSize :=
  Nat.le_max_left _ _

theorem length_le_pageCount_mul (hsize : 0 < template.pageSize.toNat) :
    items.length ≤ pageCount items template.pageSize * template.pageSize.toNat := by
  rw [Nat.mul_comm, ← ceilDiv_le_iff_le_mul hsize]
  exact Nat.le_max_right _ _

/-- There is a number for each page, since there is one for each item. -/
theorem pageCount_le_size (hitems : items.length < UInt64.size)
    (hsize : 0 < template.pageSize.toNat) :
    pageCount items template.pageSize ≤ UInt64.size := by
  have hceil : items.length ⌈/⌉ template.pageSize.toNat ≤ items.length := by
    rw [ceilDiv_le_iff_le_mul hsize]
    exact Nat.le_mul_of_pos_left _ hsize
  exact Nat.max_le.mpr ⟨by decide, Nat.le_trans hceil (Nat.le_of_lt hitems)⟩

/-- The pages end where the count says, and not before. -/
theorem lastPage (hitems : items.length < UInt64.size) (hsize : 0 < template.pageSize.toNat) :
    LastPage (answer ε items) template (pageCount items template.pageSize - 1) := by
  have hone := one_le_pageCount items template.pageSize
  have hnumbers := pageCount_le_size hitems hsize
  constructor
  · rw [endsAt_iff (by omega) hsize, Nat.sub_add_cancel hone]
    exact length_le_pageCount_mul hsize
  · intro k hk hends
    -- A page that reaches the end of the list is no earlier than the last.
    rw [endsAt_iff (by omega) hsize, Nat.mul_comm, ← ceilDiv_le_iff_le_mul hsize] at hends
    unfold pageCount at hk
    omega

/-- Read to its end, the listing is the whole list. -/
theorem delivers_items (hitems : items.length < UInt64.size)
    (hsize : 0 < template.pageSize.toNat) :
    Delivers (service (answer ε items)) (.start template) [] items none
      (requestsBefore template (pageCount items template.pageSize)) := by
  have hone := one_le_pageCount items template.pageSize
  have hnumbers := pageCount_le_size hitems hsize
  have hlast : LastPage (answer ε items) template (pageCount items template.pageSize - 1) :=
    lastPage hitems hsize
  have hall := delivers_all hlast
  have hfailure : failureAt (answer ε items) template (pageCount items template.pageSize - 1) =
      none := by
    rw [failureAt, answer_at (by omega)]
  rw [hfailure, Nat.sub_add_cancel hone, itemsBefore_eq_take hnumbers,
    List.take_of_length_le (length_le_pageCount_mul hsize)] at hall
  exact hall

end HonestServer

/-! ### Queries -/

namespace Query

open HonestServer

variable {ε α : Type}

/-- From an honest server the query collects all items, page by page, and counts them. -/
def ReadsAll (ε : Type) (q : Query) (items : List α) (pageSize : UInt64) : Prop :=
  let server := PageRun.service (answer ε items)
  (∃ requests, q.collect server [] = (.ok items, requests) ∧
    requests.length = max 1 (items.length ⌈/⌉ pageSize.toNat)) ∧
  ∃ requests, q.count server [] = (.ok items.length, requests)

theorem readsAll_of_plan {q : Query} {p : Plan} (hplan : q.plan = .ok p)
    (hresults : p.isEmpty = false) {items : List α} (hitems : items.length < UInt64.size) :
    ReadsAll ε q items p.pageSize := by
  obtain ⟨template, htemplate⟩ := p.exists_request hresults
  obtain ⟨-, -, -, htemplateSize⟩ := Plan.request?_eq_some_iff.mp htemplate
  have hsize : 0 < template.pageSize.toNat := by
    obtain ⟨hone, -⟩ := pageSize_of_plan hplan
    rw [UInt64.le_iff_toNat_le] at hone
    rw [htemplateSize]
    exact hone
  rw [← htemplateSize]
  constructor
  · have hstream : q.stream (PageRun.service (answer ε items)) [] = .ok (.start template) := by
      rw [stream_eq_ok hplan, cursor, htemplate]
    have hcollect := collect_of_delivers hstream (delivers_items hitems hsize)
    refine ⟨_, hcollect, ?_⟩
    simp [PageRun.requestsBefore, pageCount]
  · have hfetch : ∃ page w', (PageRun.service (answer ε items)).fetch
        { template with pageSize := 1 } [] = (.ok page, w') ∧ page.total = items.length :=
      ⟨_, _, rfl, rfl⟩
    obtain ⟨page, w', hfetch, htotal⟩ := hfetch
    have hcount := count_of_answer (s := PageRun.service (answer ε items)) rfl hplan htemplate
      hfetch
    rw [htotal] at hcount
    exact ⟨w', hcount⟩

/-- A query that can be run and may have results collects exactly the items of an honest server,
in their order, with one request for each page of the list, or one if the list is empty, and it
counts them. The same query with any other page size that the settings allow collects and counts
the same items. The length of a list is a number of 64 bits, like every total and every page
number. -/
theorem collect_complete {q : Query} {p : Plan} (hplan : q.plan = .ok p)
    (hresults : p.isEmpty = false) (items : List α) (hitems : items.length < UInt64.size) :
    ReadsAll ε q items p.pageSize ∧
      ∀ pageSize, q.settings.checkPageSize pageSize = .ok () →
        ReadsAll ε (q.withPageSize pageSize) items pageSize := by
  refine ⟨readsAll_of_plan hplan hresults hitems, ?_⟩
  intro pageSize hsize
  have hplan' := plan_withPageSize hplan hsize
  exact readsAll_of_plan hplan' hresults hitems

/-- Five tasks come on three pages of two, the last of them short, on five of one, and on one of
five, which is full. -/
theorem collect_complete_of_tasks :
    let q := (Query.ofEntity .task Scenario.noon).withPageSize 2
    let tasks := [10, 11, 12, 13, 14]
    ReadsAll String q tasks 2 ∧ ReadsAll String (q.withPageSize 1) tasks 1 ∧
      ReadsAll String (q.withPageSize 5) tasks 5 := by
  intro q tasks
  have hplan : q.plan = .ok ⟨.matching .all, ⟨q.catalog.defaultSort, .ascending⟩, 2⟩ := rfl
  obtain ⟨htwo, hother⟩ := @collect_complete String Nat q _ hplan rfl tasks (by decide)
  exact ⟨htwo, hother 1 rfl, hother 5 rfl⟩

end Query
end Listing
