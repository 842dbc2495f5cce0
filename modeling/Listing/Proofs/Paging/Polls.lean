import Listing.Paging.Cursor

/-! # Polls of a cursor

  A cursor is read by polling it, as often as anyone likes. `Delivers`
  says what the polls hand out altogether: some items, then perhaps an
  error, and from then on nothing. Both ways of reading a listing, poll
  by poll and all at once, follow from it.
-/

namespace Listing
namespace Cursor

variable {σ ε α : Type} {s : Service σ ε α}

/-! ### Poll after poll -/

/-- Cursor and surroundings after some polls. -/
def after (s : Service σ ε α) : Nat → Cursor ε α × σ → Cursor ε α × σ
  | 0, state => state
  | k + 1, (c, w) => after s k (next s c w).2

/-- What the poll of the given number hands out, counted from 0. -/
def poll (s : Service σ ε α) (c : Cursor ε α) (w : σ) (k : Nat) : Yield ε α :=
  let (d, v) := after s k (c, w)
  (next s d v).1

theorem poll_zero (c : Cursor ε α) (w : σ) : poll s c w 0 = (next s c w).1 := rfl

theorem poll_succ (c : Cursor ε α) (w : σ) (k : Nat) :
    poll s c w (k + 1) = poll s (next s c w).2.1 (next s c w).2.2 k := rfl

/-- The last of several polls, apart from those before it. -/
theorem after_succ (k : Nat) (state : Cursor ε α × σ) :
    after s (k + 1) state = (next s (after s k state).1 (after s k state).2).2 := by
  induction k generalizing state with
  | zero => rfl
  | succ k ih =>
    obtain ⟨c, w⟩ := state
    exact ih (next s c w).2

theorem after_add (k i : Nat) (state : Cursor ε α × σ) :
    after s (k + i) state = after s i (after s k state) := by
  induction i with
  | zero => rfl
  | succ i ih => rw [← Nat.add_assoc, after_succ, after_succ, ih]

/-- Polls can be counted from any poll on. -/
theorem poll_add (c : Cursor ε α) (w : σ) (k i : Nat) :
    poll s c w (k + i) = poll s (after s k (c, w)).1 (after s k (c, w)).2 i := by
  unfold poll
  rw [after_add]

@[simp] theorem next_finished (w : σ) :
    next s (.finished : Cursor ε α) w = (none, .finished, w) := rfl

@[simp] theorem after_finished (k : Nat) (w : σ) :
    after s k ((.finished : Cursor ε α), w) = (.finished, w) := by
  induction k with
  | zero => rfl
  | succ k ih => exact ih

@[simp] theorem poll_finished (k : Nat) (w : σ) :
    poll s (.finished : Cursor ε α) w k = none := by
  simp [poll]

/-! ### Everything that is handed out -/

/-- From here on the polls hand out the items, then the error if there is one, then nothing,
and they leave the surroundings as `w'`. -/
inductive Delivers (s : Service σ ε α) :
    Cursor ε α → σ → List α → Option (PagingError ε) → σ → Prop
  /-- Nothing is handed out. -/
  | done {c : Cursor ε α} {w w' : σ} (hnext : next s c w = (none, .finished, w')) :
      Delivers s c w [] none w'
  /-- The error is all that is left. -/
  | failed {c : Cursor ε α} {w w' : σ} {e : PagingError ε}
      (hnext : next s c w = (some (.error e), .finished, w')) : Delivers s c w [] (some e) w'
  /-- An item comes first. -/
  | item {c d : Cursor ε α} {w v w' : σ} {x : α} {items : List α}
      {failure : Option (PagingError ε)} (hnext : next s c w = (some (.ok x), d, v))
      (hrest : Delivers s d v items failure w') : Delivers s c w (x :: items) failure w'

/-- A page that is there is no error. -/
theorem arrive_ne_error (template : PageRequest) (page received : Nat) (total : Option Nat)
    (p : Page α) (e : PagingError ε) :
    (arrive template page received total p).1 ≠ some (.error e) := by
  unfold arrive
  split <;> exact nofun

theorem finished_of_arrive {template : PageRequest} {page received : Nat} {total : Option Nat}
    {p : Page α} {c : Cursor ε α} {y : Yield ε α}
    (h : arrive template page received total p = (y, c)) (hy : ∀ x, y ≠ some (.ok x)) :
    c = .finished := by
  unfold arrive at h
  split at h
  · cases h; rfl
  · cases h; exact absurd rfl (hy _)

/-- Only an item leaves something to hand out. -/
theorem finished_of_next {c d : Cursor ε α} {w w' : σ} {y : Yield ε α}
    (h : next s c w = (y, d, w')) (hy : ∀ x, y ≠ some (.ok x)) : d = .finished := by
  unfold next at h
  split at h
  · unfold request at h
    split at h
    · cases h; rfl
    · split at h
      · cases h; rfl
      · split at h
        · cases h; rfl
        · simp only [Prod.mk.injEq] at h
          exact finished_of_arrive (Prod.ext h.1 h.2.1) hy
  · cases h; exact absurd rfl (hy _)
  · cases h; rfl
  · cases h; exact absurd rfl (hy _)
  · cases h; rfl
  · cases h; rfl

/-- Whatever the service does, a cursor comes to its end. -/
theorem exists_delivers (s : Service σ ε α) (c : Cursor ε α) (w : σ) :
    ∃ items failure w', Delivers s c w items failure w' := by
  fun_induction drain s c w with
  | case1 c w d w' hnext =>
    obtain rfl := finished_of_next hnext nofun
    exact ⟨[], none, w', .done hnext⟩
  | case2 c w e d w' hnext =>
    obtain rfl := finished_of_next hnext nofun
    exact ⟨[], some e, w', .failed hnext⟩
  | case3 c w x d v hnext rest w' _ ih =>
    obtain ⟨items, failure, w', hrest⟩ := ih
    exact ⟨x :: items, failure, w', .item hnext hrest⟩

/-! ### The last page -/

/-- The last page has arrived, and its items are all that is left. -/
def Settled : Cursor ε α → Prop
  | .finishing _ | .finished => True
  | .reading .. | .failing _ => False

/-- A settled cursor goes its own way, whatever the service does, and without an error. -/
theorem Settled.next {c : Cursor ε α} (h : Settled c) :
    ∃ y d, Settled d ∧ (∀ e, y ≠ some (.error e)) ∧
      ∀ (s : Service σ ε α) (w : σ), Cursor.next s c w = (y, d, w) := by
  cases c with
  | reading | failing => cases h
  | finishing ready =>
    cases ready with
    | nil => exact ⟨none, .finished, trivial, nofun, fun _ _ => rfl⟩
    | cons x ready => exact ⟨some (.ok x), .finishing ready, trivial, nofun, fun _ _ => rfl⟩
  | finished => exact ⟨none, .finished, trivial, nofun, fun _ _ => rfl⟩

theorem Settled.poll_eq {c : Cursor ε α} (h : Settled c) (s s' : Service σ ε α) (w w' : σ)
    (i : Nat) : Cursor.poll s c w i = Cursor.poll s' c w' i := by
  induction i generalizing c with
  | zero =>
    obtain ⟨y, d, -, -, hnext⟩ := h.next
    rw [poll_zero, poll_zero, hnext, hnext]
  | succ i ih =>
    obtain ⟨y, d, hd, -, hnext⟩ := h.next
    rw [poll_succ, poll_succ, hnext, hnext]
    exact ih hd

/-! ### Lists of what is handed out -/

/-- The polls of a listing, one entry each. -/
def outputs (items : List α) (failure : Option (PagingError ε)) :
    List (Except (PagingError ε) α) :=
  items.map .ok ++ failure.toList.map .error

theorem outputs_append (first items : List α) (failure : Option (PagingError ε)) :
    outputs (first ++ items) failure = first.map .ok ++ outputs items failure := by
  rw [outputs, List.map_append, List.append_assoc]
  rfl

/-- The result of reading a listing to its end. -/
def gathered (items : List α) : Option (PagingError ε) → Except (PagingError ε) (List α)
  | none => .ok items
  | some e => .error e

namespace Delivers

variable {c : Cursor ε α} {w w' : σ} {items : List α} {failure : Option (PagingError ε)}

theorem finishing (ready : List α) (w : σ) : Delivers s (.finishing ready) w ready none w := by
  induction ready with
  | nil => exact .done rfl
  | cons x ready ih => exact .item rfl ih

/-- Items that are ready come before all others. -/
theorem ready {template : PageRequest} {page received : Nat} {total : Option Nat}
    (ready : List α)
    (h : Delivers s (.reading template page received total []) w items failure w') :
    Delivers s (.reading template page received total ready) w (ready ++ items) failure w' := by
  induction ready with
  | nil => exact h
  | cons x ready ih => exact .item rfl ih

/-- Every poll hands out its entry, and polls after the last entry nothing. -/
theorem poll_eq (h : Delivers s c w items failure w') (k : Nat) :
    poll s c w k = (outputs items failure)[k]? := by
  induction h generalizing k with
  | done hnext =>
    cases k with
    | zero => rw [poll_zero, hnext]; rfl
    | succ k => rw [poll_succ, hnext, poll_finished]; rfl
  | failed hnext =>
    cases k with
    | zero => rw [poll_zero, hnext]; rfl
    | succ k => rw [poll_succ, hnext, poll_finished]; rfl
  | item hnext _ ih =>
    cases k with
    | zero => rw [poll_zero, hnext]; rfl
    | succ k =>
      rw [poll_succ, hnext]
      exact ih k

/-- One poll after the last entry the surroundings are settled. -/
theorem after_eq (h : Delivers s c w items failure w') {k : Nat}
    (hk : (outputs items failure).length < k) : (after s k (c, w)).2 = w' := by
  induction h generalizing k with
  | done hnext | failed hnext =>
    obtain ⟨k, rfl⟩ := Nat.exists_eq_succ_of_ne_zero (Nat.ne_zero_of_lt hk)
    simp [after, hnext]
  | item hnext _ ih =>
    obtain ⟨k, rfl⟩ := Nat.exists_eq_succ_of_ne_zero (Nat.ne_zero_of_lt hk)
    simp only [after, hnext]
    exact ih (Nat.lt_of_succ_lt_succ hk)

/-- Reading to the end gathers the items, unless there is an error. -/
theorem drain_eq (h : Delivers s c w items failure w') :
    drain s c w = (gathered items failure, w') := by
  induction h with
  | done hnext =>
    rw [drain]
    split <;> simp_all [gathered]
  | failed hnext =>
    rw [drain]
    split <;> simp_all [gathered]
  | @item c d w v w' x items failure hnext _ ih =>
    rw [drain]
    split
    · simp_all
    · simp_all
    · next y d' v' hnext' =>
      rw [hnext] at hnext'
      cases hnext'
      rw [ih]
      cases failure <;> rfl

end Delivers
end Cursor
end Listing
