import Listing.Proofs.Paging.Polls

/-! # Journals of a listing

  A journal notes the requests of a listing with their answers. A
  consumer polls when it likes, and between two polls the surroundings
  may change as they like: the listing may be cancelled, and others may
  use the service.

  `Standing` says what is true after any number of polls, and one poll
  keeps it: the journal holds the pages from 0 on, without a gap and
  without a repetition, and the next page is asked for by the poll that
  finds all items of the pages so far handed out.
-/

namespace Listing

variable {σ ε α : Type}

/-! ### Journals -/

/-- Requests with their answers, in the order of the requests. -/
abbrev Journal (ε α : Type) := List (PageRequest × Except ε (Page α))

namespace Journal

/-- The requests alone. -/
def requests (j : Journal ε α) : List PageRequest := j.map Prod.fst

/-- The items that an answer brings. -/
def answerItems : Except ε (Page α) → List α
  | .ok p => p.items
  | .error _ => []

/-- All items that have arrived. -/
def items (j : Journal ε α) : List α := j.flatMap fun entry => answerItems entry.2

/-- The total of page 0, if that has arrived. -/
def total? : Journal ε α → Option Nat
  | [] => none
  | entry :: _ => entry.2.toOption.map Page.total

/-- There is another page to ask for: none has been asked for yet, or the items do not come up
to the total of page 0. -/
def Unfilled (j : Journal ε α) : Prop :=
  j = [] ∨ ∃ total, j.total? = some total ∧ j.items.length < total

variable {j : Journal ε α} {r : PageRequest} {p : Page α}

theorem items_append_ok (j : Journal ε α) (r : PageRequest) (p : Page α) :
    items (j ++ [(r, .ok p)]) = j.items ++ p.items := by
  simp [items, answerItems]

/-- A page is measured by the total of page 0, which may be the page itself. -/
theorem total?_append_ok (h : j.Unfilled) :
    total? (j ++ [(r, .ok p)]) = some (j.total?.getD p.total) := by
  rcases h with rfl | ⟨total, htotal, -⟩
  · rfl
  · cases j with
    | nil => cases htotal
    | cons entry rest =>
      have hsame : total? (entry :: rest ++ [(r, .ok p)]) = total? (entry :: rest) := rfl
      rw [hsame, htotal]
      rfl

theorem unfilled_append_ok (h : j.Unfilled) :
    Unfilled (j ++ [(r, .ok p)]) ↔ j.items.length + p.items.length < j.total?.getD p.total := by
  have hne : j ++ [(r, .ok p)] ≠ [] := by simp
  simp [Unfilled, hne, total?_append_ok h, items_append_ok]

/-- What is true of the journal of a listing at every time: it holds the pages from 0 on, and
when the last of them was asked for, each page before had brought an item, and still the items
did not come up to the total. -/
structure Regular (template : PageRequest) (j : Journal ε α) : Prop where
  requests_eq : j.requests = (List.range j.length).map template.at
  length_le : j.dropLast.length ≤ (items j.dropLast).length
  unfilled : Unfilled j.dropLast

/-- The next page is asked for. -/
theorem Regular.append {template : PageRequest} (h : j.Regular template)
    (hlen : j.length ≤ j.items.length) (hopen : j.Unfilled) (answer : Except ε (Page α)) :
    Regular template (j ++ [(template.at j.length, answer)]) where
  requests_eq := by
    have hrequests := h.requests_eq
    simp only [requests] at hrequests
    simp [requests, hrequests, List.range_succ]
  length_le := by rwa [List.dropLast_concat]
  unfilled := by rwa [List.dropLast_concat]

theorem regular_nil (template : PageRequest) : Regular template ([] : Journal ε α) :=
  ⟨rfl, Nat.le_refl _, .inl rfl⟩

/-- Fewer pages are asked for than the first one announces items, or one page at most. -/
theorem Regular.length_le_total {template : PageRequest} (h : j.Regular template) :
    j.length ≤ 1 ∨ ∃ total, j.total? = some total ∧ j.length ≤ total := by
  rcases h.unfilled with hnil | ⟨total, htotal, hlt⟩
  · left
    have hlen := congrArg List.length hnil
    simp only [List.length_dropLast, List.length_nil] at hlen
    omega
  · right
    refine ⟨total, ?_, ?_⟩
    · match j, htotal with
      | entry :: _ :: _, htotal => exact htotal
    · have hle := h.length_le
      rw [List.length_dropLast] at hle
      omega

end Journal

/-! ### The poll that asks for a page -/

namespace Cursor

variable {s : Service σ ε α} {w v : σ} {template : PageRequest}
  {page received : Nat} {total : Option Nat} {answer : Except ε (Page α)}

theorem next_of_cancelled (hw : s.isCancelled w = true) :
    next s (.reading template page received total []) w =
      (some (.error (.cancelled page)), .finished, w) :=
  if_pos hw

/-- The poll that asks for a page. Either the listing ends without another item, or the page
brings one. -/
theorem next_of_answer (hw : s.isCancelled w = false)
    (hfetch : s.fetch (template.at page) w = (answer, v)) :
    ∃ y d, next s (.reading template page received total []) w = (y, d, v) ∧
      (d = .finished ∧ (∀ x, y ≠ some (.ok x)) ∨
        ∃ p x ready, answer = .ok p ∧ p.items = x :: ready ∧ y = some (.ok x) ∧
          d = if total.getD p.total ≤ received + p.items.length then .finishing ready
            else .reading template (page + 1) (received + p.items.length)
              (some (total.getD p.total)) ready) := by
  show ∃ y d, request s template page received total w = (y, d, v) ∧ _
  rw [request, if_neg (by rw [hw]; exact Bool.false_ne_true), hfetch]
  cases answer with
  | error cause => exact ⟨_, _, rfl, .inl ⟨rfl, nofun⟩⟩
  | ok p =>
    by_cases hv : s.isCancelled v = true
    · exact ⟨_, _, if_pos hv, .inl ⟨rfl, nofun⟩⟩
    · refine ⟨(arrive template page received total p).1,
        (arrive template page received total p).2, if_neg hv, ?_⟩
      unfold arrive
      cases hitems : p.items with
      | nil => exact .inl ⟨rfl, nofun⟩
      | cons x ready => exact .inr ⟨p, x, ready, rfl, hitems, rfl, by rw [hitems]⟩

end Cursor

/-! ### Recording -/

/-- The service that keeps a journal, too. -/
def Service.recorded (s : Service σ ε α) : Service (σ × Journal ε α) ε α where
  fetch r w :=
    let (answer, v) := s.fetch r w.1
    (answer, v, w.2 ++ [(r, answer)])
  isCancelled w := s.isCancelled w.1

/-- How a stream is read. -/
structure Session (σ ε α : Type) where
  /-- What answers the requests. It may cancel the listing meanwhile. -/
  service : Service σ ε α
  /-- What happens right before the poll of the given number. -/
  meanwhile : Nat → σ → σ
  /-- The surroundings at the start. -/
  start : σ

namespace Session

open Cursor

variable (session : Session σ ε α) (c : Cursor ε α)

/-- Cursor, surroundings and journal after some polls. -/
def stateAfter : Nat → Cursor ε α × σ × Journal ε α
  | 0 => (c, session.start, [])
  | k + 1 =>
    let (d, w, j) := stateAfter k
    (next session.service.recorded d (session.meanwhile k w, j)).2

/-- The journal after some polls. -/
def journal (k : Nat) : Journal ε α := (session.stateAfter c k).2.2

/-- The surroundings in which the poll of the given number finds itself. -/
def surroundings (k : Nat) : σ := session.meanwhile k (session.stateAfter c k).2.1

/-- What the poll of the given number hands out. -/
def poll (k : Nat) : Yield ε α :=
  (next session.service.recorded (session.stateAfter c k).1
    (session.surroundings c k, session.journal c k)).1

/-- The first polls hand out the items, one each. -/
def Takes (taken : List α) : Prop :=
  (List.range taken.length).map (session.poll c) = taken.map fun x => some (.ok x)

variable {session c}

/-- The items that are taken are settled by their number. -/
theorem Takes.unique {taken other : List α} (h : session.Takes c taken)
    (h' : session.Takes c other) (hlen : other.length = taken.length) : other = taken := by
  have hsame : (other.map fun x => (some (.ok x) : Yield ε α)) =
      taken.map fun x => some (.ok x) := by
    rw [← h, ← h', hlen]
  exact (List.map_inj_right fun x y hxy => by cases hxy; rfl).mp hsame

theorem takes_concat {taken : List α} {x : α} :
    session.Takes c (taken ++ [x]) ↔
      session.Takes c taken ∧ session.poll c taken.length = some (.ok x) := by
  simp [Takes, List.range_succ]

/-! ### All polls -/

/-- The items of the pages in the journal are `taken`, which the polls have handed out, and
`ready`, which is left; the last page has been begun. -/
structure LeftOver (session : Session σ ε α) (template : PageRequest) (taken : List α)
    (j : Journal ε α) (ready : List α) : Prop where
  takes : session.Takes (.start template) taken
  items_eq : j.items = taken ++ ready
  begun : j = [] ∨ (Journal.items j.dropLast).length < taken.length

/-- Where a stream stands after some polls. -/
inductive Standing (session : Session σ ε α) (template : PageRequest) (polls : Nat) :
    Cursor ε α → Journal ε α → Prop
  /-- There is another page to ask for. -/
  | reading {j : Journal ε α} {taken ready : List α} (hj : j.Regular template)
      (hleft : session.LeftOver template taken j ready) (hpolls : taken.length = polls)
      (hlen : j.length ≤ j.items.length) (hopen : j.Unfilled) :
      Standing session template polls
        (.reading template j.length j.items.length j.total? ready) j
  /-- The last page has arrived. -/
  | finishing {j : Journal ε α} {taken ready : List α} (hj : j.Regular template)
      (hleft : session.LeftOver template taken j ready) (hpolls : taken.length = polls)
      (hfull : ¬j.Unfilled) :
      Standing session template polls (.finishing ready) j
  /-- Some poll has found no item. -/
  | finished {j : Journal ε α} (hj : j.Regular template)
      (hstop : ∀ taken, taken.length = polls → ¬session.Takes (.start template) taken) :
      Standing session template polls .finished j

variable {template : PageRequest} {polls : Nat} {j : Journal ε α} {taken ready : List α}

theorem Standing.regular {d : Cursor ε α} (h : session.Standing template polls d j) :
    j.Regular template := by
  cases h with
  | reading hj | finishing hj | finished hj => exact hj

/-- The item that is ready is taken. -/
theorem LeftOver.succ {x : α} (h : session.LeftOver template taken j (x :: ready))
    (hpoll : session.poll (.start template) taken.length = some (.ok x)) :
    session.LeftOver template (taken ++ [x]) j ready where
  takes := takes_concat.mpr ⟨h.takes, hpoll⟩
  items_eq := by simp [h.items_eq]
  begun := by
    rcases h.begun with hnil | hlt
    · exact .inl hnil
    · right
      rw [List.length_append]
      omega

/-- A page is asked for when nothing is left, and its first item is taken. -/
theorem LeftOver.append {r : PageRequest} {p : Page α} {x : α}
    (h : session.LeftOver template taken j [])
    (hpoll : session.poll (.start template) taken.length = some (.ok x))
    (hitems : p.items = x :: ready) :
    session.LeftOver template (taken ++ [x]) (j ++ [(r, .ok p)]) ready where
  takes := takes_concat.mpr ⟨h.takes, hpoll⟩
  items_eq := by simp [Journal.items_append_ok, h.items_eq, hitems]
  begun := by
    right
    rw [List.dropLast_concat, h.items_eq]
    simp

/-- After a poll without an item no list of items is all that was handed out. -/
theorem not_takes_succ (h : ∀ x, session.poll c polls ≠ some (.ok x)) :
    ∀ taken, taken.length = polls + 1 → ¬session.Takes c taken := by
  intro taken hlen htakes
  rcases List.eq_nil_or_concat taken with rfl | ⟨before, x, rfl⟩
  · cases hlen
  · rw [List.concat_eq_append, takes_concat] at htakes
    have hpolls : before.length = polls := by simpa using hlen
    rw [hpolls] at htakes
    exact h x htakes.2

/-- The poll that asks for a page, by what comes of it. -/
theorem standing_of_request (hj : j.Regular template)
    (hleft : session.LeftOver template taken j []) (hlen : j.length ≤ j.items.length)
    (hopen : j.Unfilled) {y : Yield ε α} {d : Cursor ε α} {answer : Except ε (Page α)}
    (hpoll : session.poll (.start template) taken.length = y)
    (hcases : d = .finished ∧ (∀ x, y ≠ some (.ok x)) ∨
      ∃ p x ready, answer = .ok p ∧ p.items = x :: ready ∧ y = some (.ok x) ∧
        d = if j.total?.getD p.total ≤ j.items.length + p.items.length then .finishing ready
          else .reading template (j.length + 1) (j.items.length + p.items.length)
            (some (j.total?.getD p.total)) ready) :
    session.Standing template (taken.length + 1) d
      (j ++ [(template.at j.length, answer)]) := by
  have hj' := hj.append hlen hopen answer
  rcases hcases with ⟨rfl, hy⟩ | ⟨p, x, ready, rfl, hitems, rfl, rfl⟩
  · exact .finished hj' (not_takes_succ (hpoll ▸ hy))
  · have hleft' := hleft.append (r := template.at j.length) hpoll hitems
    have hunfilled := Journal.unfilled_append_ok (r := template.at j.length) (p := p) hopen
    have hpolls : (taken ++ [x]).length = taken.length + 1 := by simp
    -- The page is the last one exactly if it fills the listing.
    split
    · next hfull =>
      have hfull' : ¬Journal.Unfilled (j ++ [(template.at j.length, Except.ok p)]) := by
        intro hmore
        exact absurd (hunfilled.mp hmore) (Nat.not_lt_of_le hfull)
      exact .finishing hj' hleft' hpolls hfull'
    · next hfull =>
      have hmore := hunfilled.mpr (Nat.lt_of_not_le hfull)
      have hlen' : (j ++ [(template.at j.length, Except.ok p)]).length ≤
          (Journal.items (j ++ [(template.at j.length, Except.ok p)])).length := by
        rw [Journal.items_append_ok, hitems]
        simp only [List.length_append, List.length_cons, List.length_nil]
        omega
      have hstanding := Standing.reading hj' hleft' hpolls hlen' hmore
      rwa [Journal.total?_append_ok hopen, Journal.items_append_ok, List.length_append,
        List.length_append] at hstanding

/-- One more poll. -/
theorem Standing.next {d d' : Cursor ε α} {w w' : σ} {j' : Journal ε α} {y : Yield ε α}
    (h : session.Standing template polls d j)
    (hnext : Cursor.next session.service.recorded d (w, j) = (y, d', w', j'))
    (hpoll : session.poll (.start template) polls = y) :
    session.Standing template (polls + 1) d' j' := by
  cases h with
  | @reading _ taken ready hj hleft hpolls hlen hopen =>
    subst hpolls
    cases ready with
    | cons x ready =>
      cases hnext
      exact .reading hj (hleft.succ hpoll) (by simp) hlen hopen
    | nil =>
      -- This poll asks for a page, unless it finds the listing cancelled.
      cases hw : session.service.isCancelled w with
      | true =>
        rw [next_of_cancelled (s := session.service.recorded) (w := (w, j)) hw] at hnext
        cases hnext
        exact .finished hj (not_takes_succ (by rw [hpoll]; exact nofun))
      | false =>
        obtain ⟨y', d'', hrequest, hcases⟩ :=
          next_of_answer (s := session.service.recorded) (w := (w, j)) hw rfl
        rw [hrequest] at hnext
        cases hnext
        exact standing_of_request hj hleft hlen hopen hpoll hcases
  | @finishing _ taken ready hj hleft hpolls hfull =>
    subst hpolls
    cases ready with
    | cons x ready =>
      cases hnext
      exact .finishing hj (hleft.succ hpoll) (by simp) hfull
    | nil =>
      cases hnext
      exact .finished hj (not_takes_succ (by rw [hpoll]; exact nofun))
  | finished hj hstop =>
    cases hnext
    exact .finished hj (not_takes_succ (by rw [hpoll]; exact nofun))

/-- Where a stream stands at any time. -/
theorem standing (session : Session σ ε α) (template : PageRequest) (polls : Nat) :
    session.Standing template polls (session.stateAfter (.start template) polls).1
      (session.journal (.start template) polls) := by
  induction polls with
  | zero =>
    have hleft : session.LeftOver template [] ([] : Journal ε α) [] := ⟨rfl, rfl, .inl rfl⟩
    exact .reading (Journal.regular_nil template) hleft rfl (Nat.le_refl 0) (.inl rfl)
  | succ polls ih => exact ih.next rfl rfl

/-! ### The end of a stream -/

/-- A stream that has ended hands out nothing more, and asks for nothing more. -/
theorem finished_add {k : Nat} (h : (session.stateAfter c k).1 = .finished) (i : Nat) :
    (session.stateAfter c (k + i)).1 = .finished ∧
      session.journal c (k + i) = session.journal c k ∧ session.poll c (k + i) = none := by
  have hpoll : ∀ m, (session.stateAfter c m).1 = .finished → session.poll c m = none := by
    intro m hm
    rw [poll, hm]
    rfl
  induction i with
  | zero => exact ⟨h, rfl, hpoll k h⟩
  | succ i ih =>
    obtain ⟨hstate, hjournal, -⟩ := ih
    have hnext : session.stateAfter c (k + (i + 1)) =
        (Cursor.next session.service.recorded (session.stateAfter c (k + i)).1
          (session.surroundings c (k + i), session.journal c (k + i))).2 := rfl
    rw [hstate, next_finished] at hnext
    have hfinished : (session.stateAfter c (k + (i + 1))).1 = .finished := by rw [hnext]
    refine ⟨hfinished, ?_, hpoll _ hfinished⟩
    rw [journal, hnext]
    exact hjournal

theorem poll_of_finished (k : Nat) :
    session.poll .finished k = none ∧ session.journal .finished k = [] := by
  have hstart : (session.stateAfter (.finished : Cursor ε α) 0).1 = .finished := rfl
  obtain ⟨-, hjournal, hpoll⟩ := finished_add hstart k
  rw [Nat.zero_add] at hjournal hpoll
  exact ⟨hpoll, hjournal⟩

/-- A stream whose first poll hands out an error and asks for nothing. -/
theorem poll_of_error {e : PagingError ε} {w : σ}
    (h : Cursor.next session.service.recorded c (session.surroundings c 0, []) =
      (some (.error e), .finished, w, [])) (k : Nat) :
    session.poll c k = ([.error e] : List (Except (PagingError ε) α))[k]? ∧
      session.journal c k = [] := by
  have hstate : session.stateAfter c 1 = (.finished, w, []) := congrArg Prod.snd h
  cases k with
  | zero => exact ⟨congrArg Prod.fst h, rfl⟩
  | succ k =>
    have hfinished : (session.stateAfter c 1).1 = .finished := by rw [hstate]
    obtain ⟨-, hjournal, hpoll⟩ := finished_add hfinished k
    rw [Nat.add_comm 1 k] at hjournal hpoll
    refine ⟨hpoll, ?_⟩
    rw [hjournal, journal, hstate]

/-! ### When a page is asked for -/

/-- The poll of the given number finds all items that have arrived handed out, another page to
ask for, and the listing not cancelled. -/
def Asks (session : Session σ ε α) (c : Cursor ε α) (k : Nat) : Prop :=
  session.Takes c (session.journal c k).items ∧ (session.journal c k).items.length = k ∧
    (session.journal c k).Unfilled ∧ session.service.isCancelled (session.surroundings c k) = false

/-- A poll that asks puts the next page into the journal, and any other poll nothing. -/
theorem journal_succ (session : Session σ ε α) (template : PageRequest) (k : Nat) :
    session.Asks (.start template) k ∧
        (∃ answer, session.journal (.start template) (k + 1) =
          session.journal (.start template) k ++
            [(template.at (session.journal (.start template) k).length, answer)]) ∨
      ¬session.Asks (.start template) k ∧
        session.journal (.start template) (k + 1) = session.journal (.start template) k := by
  have hstanding := session.standing template k
  have hsucc : session.journal (.start template) (k + 1) =
      (Cursor.next session.service.recorded (session.stateAfter (.start template) k).1
        (session.surroundings (.start template) k, session.journal (.start template) k)).2.2.2 :=
    rfl
  rw [hsucc, Asks]
  generalize session.surroundings (.start template) k = w
  generalize session.journal (.start template) k = j at hstanding ⊢
  generalize (session.stateAfter (.start template) k).1 = d at hstanding ⊢
  cases hstanding with
  | @reading _ taken ready hj hleft hpolls hlen hopen =>
    cases ready with
    | cons x ready =>
      refine .inr ⟨?_, rfl⟩
      rintro ⟨-, hlength, -⟩
      rw [hleft.items_eq, List.length_append, hpolls, List.length_cons] at hlength
      omega
    | nil =>
      have hitems : j.items = taken := by rw [hleft.items_eq, List.append_nil]
      cases hw : session.service.isCancelled w with
      | true =>
        rw [next_of_cancelled (s := session.service.recorded) (w := (w, j)) hw]
        refine .inr ⟨?_, rfl⟩
        rintro ⟨-, -, -, hfalse⟩
        cases hfalse
      | false =>
        obtain ⟨y, d', hrequest, -⟩ :=
          next_of_answer (s := session.service.recorded) (w := (w, j)) hw rfl
        rw [hrequest]
        have htakes : session.Takes (.start template) j.items := by rw [hitems]; exact hleft.takes
        exact .inl ⟨⟨htakes, by rw [hitems, hpolls], hopen, rfl⟩, _, rfl⟩
  | @finishing _ taken ready hj hleft hpolls hfull =>
    refine .inr ⟨fun h => hfull h.2.2.1, ?_⟩
    cases ready <;> rfl
  | finished hj hstop =>
    refine .inr ⟨?_, rfl⟩
    rintro ⟨htakes, hlength, -⟩
    exact hstop _ hlength htakes

/-- The page that holds the last of the items taken is the last page asked for. -/
theorem page_of_takes {taken : List α} (hne : taken ≠ [])
    (htakes : session.Takes (.start template) taken) :
    taken <+: (session.journal (.start template) taken.length).items ∧
      ∃ m, (session.journal (.start template) taken.length).length = m + 1 ∧
        (Journal.items ((session.journal (.start template) taken.length).take m)).length <
          taken.length := by
  have hstanding := session.standing template taken.length
  generalize session.journal (.start template) taken.length = j at hstanding ⊢
  generalize (session.stateAfter (.start template) taken.length).1 = d at hstanding
  suffices hleft : ∃ ready, session.LeftOver template taken j ready by
    obtain ⟨ready, hleft⟩ := hleft
    refine ⟨⟨ready, hleft.items_eq.symm⟩, j.length - 1, ?_, ?_⟩
    · have hj : j ≠ [] := by
        rintro rfl
        have hnil : [] = taken ++ ready := hleft.items_eq
        exact hne (List.append_eq_nil_iff.mp hnil.symm).1
      have hpos := List.length_pos_iff.mpr hj
      omega
    · rw [← List.dropLast_eq_take]
      rcases hleft.begun with rfl | hlt
      · exact List.length_pos_iff.mpr hne
      · exact hlt
  cases hstanding with
  | @reading _ other ready hj hleft hpolls =>
    rw [htakes.unique hleft.takes hpolls] at hleft
    exact ⟨ready, hleft⟩
  | @finishing _ other ready hj hleft hpolls =>
    rw [htakes.unique hleft.takes hpolls] at hleft
    exact ⟨ready, hleft⟩
  | finished hj hstop => exact absurd htakes (hstop taken rfl)

end Session

/-! ### The page of the template -/

namespace Cursor

/-- The same cursor with another page in its template. -/
def renumber (number : UInt64) : Cursor ε α → Cursor ε α
  | .reading template page received total ready =>
    .reading { template with page := number } page received total ready
  | .finishing ready => .finishing ready
  | .failing error => .failing error
  | .finished => .finished

theorem renumber_start (number : UInt64) (template : PageRequest) :
    (start template : Cursor ε α).renumber number = start { template with page := number } := rfl

theorem next_renumber (s : Service σ ε α) (number : UInt64) (c : Cursor ε α) (w : σ) :
    next s (c.renumber number) w =
      ((next s c w).1, (next s c w).2.1.renumber number, (next s c w).2.2) := by
  cases c with
  | reading template page received total ready =>
    cases ready with
    | cons x ready => rfl
    | nil =>
      -- Only the request is made from the template, and it names a page of its own.
      show request s { template with page := number } page received total w =
        ((request s template page received total w).1,
          (request s template page received total w).2.1.renumber number,
          (request s template page received total w).2.2)
      have hat : PageRequest.at { template with page := number } page = template.at page := rfl
      unfold request
      rw [hat]
      by_cases hw : s.isCancelled w = true
      · simp only [if_pos hw]
        rfl
      · simp only [if_neg hw]
        obtain ⟨answer, v⟩ := s.fetch (template.at page) w
        cases answer with
        | error cause => rfl
        | ok p =>
          by_cases hv : s.isCancelled v = true
          · simp only [if_pos hv]
            rfl
          · simp only [if_neg hv, arrive]
            cases p.items with
            | nil => rfl
            | cons x ready =>
              simp only
              split <;> rfl
  | finishing ready => cases ready <;> rfl
  | failing | finished => rfl

end Cursor

namespace Session

variable {session : Session σ ε α}

/-- The page that the template names plays no part. -/
theorem stateAfter_renumber (number : UInt64) (c : Cursor ε α) (k : Nat) :
    session.stateAfter (c.renumber number) k =
      ((session.stateAfter c k).1.renumber number, (session.stateAfter c k).2) := by
  induction k with
  | zero => rfl
  | succ k ih =>
    have hstep : session.stateAfter (c.renumber number) (k + 1) =
        (Cursor.next session.service.recorded (session.stateAfter (c.renumber number) k).1
          (session.meanwhile k (session.stateAfter (c.renumber number) k).2.1,
            (session.stateAfter (c.renumber number) k).2.2)).2 := rfl
    rw [hstep, ih, Cursor.next_renumber]
    rfl

theorem journal_renumber (number : UInt64) (c : Cursor ε α) (k : Nat) :
    session.journal (c.renumber number) k = session.journal c k := by
  rw [journal, stateAfter_renumber]
  rfl

theorem poll_renumber (number : UInt64) (c : Cursor ε α) (k : Nat) :
    session.poll (c.renumber number) k = session.poll c k := by
  rw [poll, surroundings, journal, stateAfter_renumber, Cursor.next_renumber]
  rfl

end Session
end Listing
