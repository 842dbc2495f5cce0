import Listing.Request

/-! # Reading a listing page by page

  A cursor hands out the items of a listing one at a time and asks the
  service for the next page only when it has none left. It stops when
  it has received as many items as the first page announced, when a
  page comes back empty, when the service fails, or when it is
  cancelled. Cancellation is looked at before each request and again
  when the answer is there; a page that arrives too late is dropped
  whole.

  The service and the cancellation live in surroundings `σ` that
  change with every request, and between polls as they like.
-/

namespace Listing

/-- One page of a listing. -/
structure Page (α : Type) where
  /-- How many items the whole listing has. -/
  total : Nat
  /-- The items of the page. -/
  items : List α
deriving DecidableEq, Repr

/-- A listing service, as a query uses it. -/
structure Service (σ ε α : Type) where
  /-- Answer a request. -/
  fetch : PageRequest → σ → Except ε (Page α) × σ
  /-- The query is cancelled. -/
  isCancelled : σ → Bool

/-- Why a listing ends before its end. -/
inductive PagingError (ε : Type)
  /-- The service did not answer the request for a page. -/
  | fetchFailed (page : Nat) (cause : ε)
  /-- The query was cancelled before a page was handed out. -/
  | cancelled (page : Nat)
deriving DecidableEq, Repr

/-- The wording of an error, given that of the service's failures. -/
def PagingError.message {ε : Type} (causeText : ε → String) : PagingError ε → String
  | .fetchFailed page cause =>
    "Failed to fetch page " ++ Text.natText page ++ ": " ++ causeText cause
  | .cancelled page =>
    "Query cancelled before page " ++ Text.natText page ++ " was delivered"

/-- The same request for the page of the given number. -/
def PageRequest.at (r : PageRequest) (page : Nat) : PageRequest := { r with page := .ofNat page }

/-! ### Cursors -/

/-- Where the reading of a listing stands. -/
inductive Cursor (ε α : Type)
  /-- `ready` is left of the pages before `page`, `received` items have come in all, and
  `total` was announced by the first page, if it is there. -/
  | reading (template : PageRequest) (page received : Nat) (total : Option Nat) (ready : List α)
  /-- `ready` is left of the last page. -/
  | finishing (ready : List α)
  /-- All that is left is an error. -/
  | failing (error : PagingError ε)
  /-- Nothing is left. -/
  | finished

namespace Cursor

variable {σ ε α : Type}

/-- The start of a listing. Reading starts at page 0, whatever page the template names. -/
def start (template : PageRequest) : Cursor ε α := .reading template 0 0 none []

/-- What a poll hands out: an item or an error, or nothing at the end. -/
abbrev Yield (ε α : Type) := Option (Except (PagingError ε) α)

/-- The first item of a page, and where the reading stands after it. -/
def arrive (template : PageRequest) (page received : Nat) (total : Option Nat) (p : Page α) :
    Yield ε α × Cursor ε α :=
  match p.items with
  | [] => (none, .finished)
  | item :: ready =>
    -- Totals of later pages are ignored.
    let announced := total.getD p.total
    let received := received + p.items.length
    ( some (.ok item),
      if announced ≤ received then .finishing ready
      else .reading template (page + 1) received (some announced) ready )

/-- Ask for the next page and hand out its first item. -/
def request (s : Service σ ε α) (template : PageRequest) (page received : Nat)
    (total : Option Nat) (w : σ) : Yield ε α × Cursor ε α × σ :=
  if s.isCancelled w then (some (.error (.cancelled page)), .finished, w)
  else
    match s.fetch (template.at page) w with
    | (.error cause, w) => (some (.error (.fetchFailed page cause)), .finished, w)
    | (.ok p, w) =>
      -- The answer came too late if the query was cancelled in the meantime.
      if s.isCancelled w then (some (.error (.cancelled page)), .finished, w)
      else
        let (yielded, c) := arrive template page received total p
        (yielded, c, w)

/-- One poll: the next item, the error that ends the listing, or nothing at its end. -/
def next (s : Service σ ε α) (c : Cursor ε α) (w : σ) : Yield ε α × Cursor ε α × σ :=
  match c with
  | .reading template page received total [] => request s template page received total w
  | .reading template page received total (item :: ready) =>
    (some (.ok item), .reading template page received total ready, w)
  | .finishing [] => (none, .finished, w)
  | .finishing (item :: ready) => (some (.ok item), .finishing ready, w)
  | .failing error => (some (.error error), .finished, w)
  | .finished => (none, .finished, w)

/-! ### Reading to the end -/

/-- Whether the first page is still to come. -/
def unannounced : Cursor ε α → Nat
  | .reading _ _ _ none _ => 1
  | _ => 0

/-- How many of the announced items have not come in, and one more until the last page. -/
def outstanding : Cursor ε α → Nat
  | .reading _ _ received (some total) _ => total - received + 1
  | _ => 0

/-- How many items are ready. -/
def readyCount : Cursor ε α → Nat
  | .reading _ _ _ _ ready => ready.length
  | .finishing ready => ready.length
  | _ => 0

/-- The cursor `c` has less to hand out than `d`. -/
def Below (c d : Cursor ε α) : Prop :=
  c.unannounced < d.unannounced ∨
    c.unannounced = d.unannounced ∧
      (c.outstanding < d.outstanding ∨
        c.outstanding = d.outstanding ∧ c.readyCount < d.readyCount)

theorem below_of_arrive {template : PageRequest} {page received : Nat} {total : Option Nat}
    {p : Page α} {item : α} {c : Cursor ε α}
    (h : arrive template page received total p = (some (.ok item), c)) :
    c.Below (.reading template page received total []) := by
  unfold arrive at h
  split at h
  · cases h
  · next x ready hp =>
    have hlen : 0 < p.items.length := by simp [hp]
    simp only [Prod.mk.injEq] at h
    obtain ⟨-, rfl⟩ := h
    cases total with
    | none =>
      split
      · exact .inl Nat.zero_lt_one
      · exact .inl Nat.zero_lt_one
    | some t =>
      simp only [Option.getD_some]
      split
      · exact .inr ⟨rfl, .inl (by simp [outstanding])⟩
      · exact .inr ⟨rfl, .inl (by simp only [outstanding]; omega)⟩

/-- Every item that is handed out leaves less to hand out. -/
theorem below_of_next {s : Service σ ε α} {c d : Cursor ε α} {w w' : σ} {item : α}
    (h : next s c w = (some (.ok item), d, w')) : d.Below c := by
  unfold next at h
  split at h
  · next template page received total =>
    unfold request at h
    split at h
    · cases h
    · split at h
      · cases h
      · split at h
        · cases h
        · next p _ _ _ =>
          simp only [Prod.mk.injEq] at h
          exact below_of_arrive (p := p) (Prod.ext h.1 h.2.1)
  · next template page received total item ready =>
    cases h
    refine .inr ⟨?_, .inr ⟨?_, by simp [readyCount]⟩⟩
    · cases total <;> rfl
    · cases total <;> rfl
  · cases h
  · cases h
    exact .inr ⟨rfl, .inr ⟨rfl, by simp [readyCount]⟩⟩
  · cases h
  · cases h

/-- All items up to the end, or the error that ends the listing. -/
def drain (s : Service σ ε α) (c : Cursor ε α) (w : σ) :
    Except (PagingError ε) (List α) × σ :=
  match _h : next s c w with
  | (none, _, w) => (.ok [], w)
  | (some (.error e), _, w) => (.error e, w)
  | (some (.ok item), d, w) =>
    let (rest, w) := drain s d w
    (rest.map (item :: ·), w)
termination_by (c.unannounced, c.outstanding, c.readyCount)
decreasing_by
  simp only [Prod.lex_def]
  exact below_of_next _h

end Cursor
end Listing
