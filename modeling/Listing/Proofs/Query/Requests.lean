import Listing.Proofs.Paging.Journal
import Listing.Proofs.Paging.Run
import Listing.Proofs.Query.Count
import Listing.Proofs.Query.Planning

/-! # The requests of a stream

  A stream asks for the pages of its plan one after another, and for
  each only when it is needed: the poll that asks for a page finds all
  items of the pages before it handed out. So as long as every poll
  finds an item, the last page that was asked for is the one that holds
  the last of these items.

  This holds whatever the service answers, and whatever happens between
  the polls.
-/

namespace Listing

variable {σ ε α : Type}

/-! ### Page numbers -/

/-- The pages of a journal have the numbers from 0 on, as long as numbers of 64 bits suffice. -/
theorem Journal.Regular.pages {template : PageRequest} {j : Journal ε α}
    (h : j.Regular template) (htotal : ∀ total, j.total? = some total → total < UInt64.size) :
    j.requests.map (·.page.toNat) = List.range j.length := by
  have hlen : j.length ≤ UInt64.size := by
    rcases h.length_le_total with hone | ⟨total, hj, hle⟩
    · exact Nat.le_trans hone (by decide)
    · have hlt := htotal total hj
      omega
  rw [h.requests_eq, List.map_map]
  have hnumber : ∀ k ∈ List.range j.length,
      ((fun r : PageRequest => r.page.toNat) ∘ template.at) k = id k := by
    intro k hk
    have hk' : k < j.length := List.mem_range.mp hk
    exact PageRun.page_at (Nat.lt_of_lt_of_le hk' hlen) template
  rw [List.map_congr_left hnumber, List.map_id]

/-! ### Streams -/

/-- The requests of a stream are those of the plan for its pages, one after another, and each is
made by the poll that cannot do without it. -/
structure AsksInOrder (p : Plan) (session : Session σ ε α) (c : Cursor ε α) : Prop where
  /-- Nothing is asked for before the first poll. -/
  unasked : session.journal c 0 = []
  /-- At any time the pages from 0 on have been asked for, each once. -/
  requests : ∀ k, (session.journal c k).requests.map some =
    (List.range (session.journal c k).length).map fun page => p.request? (.ofNat page)
  /-- No number stands for two pages, since totals are numbers of 64 bits. -/
  pages : ∀ k, (∀ total, (session.journal c k).total? = some total → total < UInt64.size) →
    (session.journal c k).requests.map (·.page.toNat) = List.range (session.journal c k).length
  /-- After some items the last page asked for is the one that holds the last of them. -/
  taken : ∀ taken, taken ≠ [] → session.Takes c taken →
    taken <+: (session.journal c taken.length).items ∧
      ∃ m, (session.journal c taken.length).length = m + 1 ∧
        (Journal.items ((session.journal c taken.length).take m)).length < taken.length
  /-- A poll asks for one page if all items that have arrived are taken, the pages so far do not
  end the listing, and it is not cancelled; otherwise for none. -/
  asks : ∀ k,
    session.Asks c k ∧ (∃ entry, session.journal c (k + 1) = session.journal c k ++ [entry]) ∨
      ¬session.Asks c k ∧ session.journal c (k + 1) = session.journal c k

theorem asksInOrder {p : Plan} {template : PageRequest} (h : p.request? 0 = some template)
    (session : Session σ ε α) : AsksInOrder p session (.start template) where
  unasked := rfl
  requests k := by
    have hregular := (session.standing template k).regular
    rw [hregular.requests_eq, List.map_map]
    exact List.map_congr_left fun page _ => (p.request?_at h page).symm
  pages k := (session.standing template k).regular.pages
  taken _ hne htakes := Session.page_of_takes hne htakes
  asks k := by
    rcases session.journal_succ template k with ⟨hasks, answer, hsucc⟩ | hsame
    · exact .inl ⟨hasks, _, hsucc⟩
    · exact .inr hsame

/-- A request of a plan has the filter, the ordering and the page size of the plan. -/
theorem AsksInOrder.request {p : Plan} {session : Session σ ε α} {c : Cursor ε α}
    (h : AsksInOrder p session c) {k : Nat} {r : PageRequest}
    (hr : r ∈ (session.journal c k).requests) :
    p.selection = .matching r.filter ∧ r.sort = p.sort ∧ r.pageSize = p.pageSize := by
  have hmem : some r ∈ (session.journal c k).requests.map some := List.mem_map_of_mem hr
  rw [h.requests] at hmem
  obtain ⟨page, -, hpage⟩ := List.mem_map.mp hmem
  obtain ⟨hfilter, hsort, -, hsize⟩ := Plan.request?_eq_some_iff.mp hpage
  exact ⟨hfilter, hsort, hsize⟩

namespace Query

/-- A query that can be run and may have results gives a stream that starts at page 0. The stream
asks for nothing when it is made, and then for the pages of the plan in their order: after some
items for those up to the page that holds the last of them, and for the next page only when all
items are taken and the pages so far do not end the listing. Each request has the filter and the
ordering of the plan, and a page size that the settings allow. A page number in the template
plays no part. -/
theorem stream_asks_in_order {q : Query} {p : Plan} (hplan : q.plan = .ok p)
    (hresults : p.isEmpty = false) (session : Session σ ε α) :
    ∃ template, p.request? 0 = some template ∧
      (∀ w, q.stream session.service w = .ok (.start template)) ∧
      AsksInOrder p session (.start template) ∧
      (∀ k, ∀ r ∈ (session.journal (.start template) k).requests,
        p.selection = .matching r.filter ∧ r.sort = p.sort ∧
          1 ≤ r.pageSize ∧ r.pageSize ≤ q.settings.maxPageSize) ∧
      ∀ number k,
        session.poll (.start { template with page := number }) k =
            session.poll (.start template) k ∧
          session.journal (.start { template with page := number }) k =
            session.journal (.start template) k := by
  obtain ⟨template, htemplate⟩ := p.exists_request hresults
  have horder := asksInOrder htemplate session
  refine ⟨template, htemplate, ?_, horder, ?_, ?_⟩
  · intro w
    rw [stream_eq_ok hplan, cursor, htemplate]
  · intro k r hr
    obtain ⟨hfilter, hsort, hsize⟩ := horder.request hr
    rw [hsize]
    exact ⟨hfilter, hsort, pageSize_of_plan hplan⟩
  · intro number k
    rw [← Cursor.renumber_start]
    exact ⟨Session.poll_renumber number _ k, Session.journal_renumber number _ k⟩

/-- Tasks are read two to a page, and cancelled when the first item of page 1 has been taken: the
other item is still handed out, and page 2 is not asked for. -/
theorem stream_asks_in_order_of_tasks :
    let q := (Query.ofEntity .task Scenario.noon).withPageSize 2
    let session : Session Bool String Nat :=
      ⟨⟨fun r w => (Script.answer ⟨[2, 2, 2], 6, none, none⟩ r, w), id⟩,
        fun k w => w || k == 3, false⟩
    ∃ p template, q.plan = .ok p ∧ p.isEmpty = false ∧ p.request? 0 = some template ∧
      AsksInOrder p session (.start template) ∧
      (List.range 6).map (session.poll (.start template)) =
        [some (.ok 0), some (.ok 1), some (.ok 2), some (.ok 3),
          some (.error (.cancelled 2)), none] ∧
      (session.journal (.start template) 6).requests = [template.at 0, template.at 1] := by
  intro q session
  have hplan : q.plan = .ok ⟨.matching .all, ⟨q.catalog.defaultSort, .ascending⟩, 2⟩ := rfl
  obtain ⟨template, htemplate, -, horder, -, -⟩ := stream_asks_in_order hplan rfl session
  cases htemplate
  exact ⟨_, _, hplan, rfl, rfl, horder, rfl, rfl⟩

end Query
end Listing
