import Listing.Proofs.Compile.Derivation
import Listing.Query

/-! # Plans of queries

  A query is planned in three steps, and the first that fails is the
  one that is reported: the page size is checked, the predicate is
  compiled, the ordering is looked up. A plan is the request for each
  of its pages, apart from the page number.
-/

namespace Listing

/-! ### The steps of a plan -/

namespace Compiler

variable (c : Compiler)

/-- The records that a predicate selects; all of them without a predicate. -/
def selected : Option Lambda → Except CompileError Selection
  | none => .ok (.matching .all)
  | some p => do pure (← c.compile p).selection

/-- The field that an ordering names; the catalog's own without an ordering. -/
def sorted : Option Lambda → Except CompileError Selector
  | none => .ok c.catalog.defaultSort
  | some k => c.catalog.sortKey k

theorem plan_eq (predicate key : Option Lambda) (direction : Direction) (pageSize : UInt64) :
    c.plan predicate key direction pageSize = (do
      let selection ← c.selected predicate
      let field ← c.sorted key
      .ok ⟨selection, ⟨field, direction⟩, pageSize⟩) := by
  unfold Compiler.plan
  cases predicate with
  | none => cases key <;> rfl
  | some p =>
    -- The selection is bound in one step here and in two there.
    cases key <;> simp only [selected, sorted, bind_assoc, pure_bind]

theorem plan_eq_ok_iff {predicate key : Option Lambda} {direction : Direction}
    {pageSize : UInt64} {plan : Plan} :
    c.plan predicate key direction pageSize = .ok plan ↔
      ∃ selection field, c.selected predicate = .ok selection ∧ c.sorted key = .ok field ∧
        plan = ⟨selection, ⟨field, direction⟩, pageSize⟩ := by
  rw [plan_eq]
  constructor
  · intro h
    obtain ⟨selection, hselection, h⟩ := bind_eq_ok.mp h
    obtain ⟨field, hfield, h⟩ := bind_eq_ok.mp h
    cases h
    exact ⟨selection, field, hselection, hfield, rfl⟩
  · rintro ⟨selection, field, hselection, hfield, rfl⟩
    rw [hselection, hfield]
    rfl

end Compiler

/-! ### Page sizes -/

namespace Query

/-- The page size of the plan. -/
def plannedSize (q : Query) : UInt64 := q.pageSize.getD q.settings.pageSize

variable {q : Query} {p : Plan}

theorem plan_eq (q : Query) :
    q.plan =
      if 1 ≤ q.plannedSize ∧ q.plannedSize ≤ q.settings.maxPageSize then
        (q.compiler.plan q.predicate q.key (q.direction.getD q.settings.direction)
          q.plannedSize).mapError .compile
      else .error (.settings (.invalidPageSize q.plannedSize q.settings.maxPageSize)) := by
  by_cases hsize : 1 ≤ q.plannedSize ∧ q.plannedSize ≤ q.settings.maxPageSize
  · have hcheck := Settings.checkPageSize_eq_ok_iff.mpr hsize
    rw [if_pos hsize]
    rw [plannedSize] at hcheck
    simp only [plan, plannedSize, hcheck]
    cases q.compiler.plan q.predicate q.key (q.direction.getD q.settings.direction)
      (q.pageSize.getD q.settings.pageSize) <;> rfl
  · have hcheck := q.settings.checkPageSize_eq q.plannedSize
    rw [if_neg hsize] at hcheck ⊢
    rw [plannedSize] at hcheck
    simp only [plan, plannedSize, hcheck]

theorem plan_eq_ok_iff :
    q.plan = .ok p ↔
      q.settings.checkPageSize q.plannedSize = .ok () ∧
        q.compiler.plan q.predicate q.key (q.direction.getD q.settings.direction)
          q.plannedSize = .ok p := by
  rw [plan_eq, Settings.checkPageSize_eq_ok_iff]
  by_cases hsize : 1 ≤ q.plannedSize ∧ q.plannedSize ≤ q.settings.maxPageSize
  · rw [if_pos hsize]
    cases q.compiler.plan q.predicate q.key (q.direction.getD q.settings.direction)
        q.plannedSize with
    | error e => exact ⟨nofun, fun h => nomatch h.2⟩
    | ok plan => simp [hsize, Except.mapError]
  · rw [if_neg hsize]
    exact ⟨nofun, fun h => absurd h.1 hsize⟩

/-- Plans have page sizes within the limits. -/
theorem pageSize_of_plan (h : q.plan = .ok p) :
    1 ≤ p.pageSize ∧ p.pageSize ≤ q.settings.maxPageSize := by
  obtain ⟨hsize, hplan⟩ := plan_eq_ok_iff.mp h
  obtain ⟨selection, field, -, -, rfl⟩ := q.compiler.plan_eq_ok_iff.mp hplan
  exact Settings.checkPageSize_eq_ok_iff.mp hsize

/-- Another page size makes no other difference. -/
theorem plan_withPageSize {pageSize : UInt64} (h : q.plan = .ok p)
    (hsize : q.settings.checkPageSize pageSize = .ok ()) :
    (q.withPageSize pageSize).plan = .ok { p with pageSize } := by
  obtain ⟨-, hplan⟩ := plan_eq_ok_iff.mp h
  obtain ⟨selection, field, hselection, hfield, rfl⟩ := q.compiler.plan_eq_ok_iff.mp hplan
  refine plan_eq_ok_iff.mpr ⟨hsize, ?_⟩
  exact (q.withPageSize pageSize).compiler.plan_eq_ok_iff.mpr
    ⟨selection, field, hselection, hfield, rfl⟩

/-! ### Which fault is reported -/

/-- A page size that is not allowed is reported before everything else. -/
theorem plan_of_pageSize (h : ¬(1 ≤ q.plannedSize ∧ q.plannedSize ≤ q.settings.maxPageSize)) :
    q.plan = .error (.settings (.invalidPageSize q.plannedSize q.settings.maxPageSize)) := by
  rw [plan_eq, if_neg h]

/-- With an allowed page size the compiler alone decides. -/
theorem plan_of_compiler {e : CompileError}
    (hsize : 1 ≤ q.plannedSize ∧ q.plannedSize ≤ q.settings.maxPageSize)
    (h : q.compiler.plan q.predicate q.key (q.direction.getD q.settings.direction)
      q.plannedSize = .error e) : q.plan = .error (.compile e) := by
  rw [plan_eq, if_pos hsize, h]
  rfl

/-- A predicate that does not compile is reported before the ordering is looked at. -/
theorem plan_of_predicate {f : Lambda} {e : CompileError}
    (hsize : 1 ≤ q.plannedSize ∧ q.plannedSize ≤ q.settings.maxPageSize)
    (hf : q.predicate = some f) (h : q.compiler.compile f = .error e) :
    q.plan = .error (.compile e) := by
  have hselected : q.compiler.selected q.predicate = .error e := by
    rw [hf, Compiler.selected, h]
    rfl
  apply plan_of_compiler hsize
  rw [Compiler.plan_eq, hselected]
  rfl

/-- An ordering that cannot be looked up is reported whatever the predicate selects. -/
theorem plan_of_key {k : Lambda} {e : CompileError}
    (hsize : 1 ≤ q.plannedSize ∧ q.plannedSize ≤ q.settings.maxPageSize)
    (hcompiles : ∀ f, q.predicate = some f → ∃ x, q.compiler.compile f = .ok x)
    (hk : q.key = some k) (h : q.catalog.sortKey k = .error e) : q.plan = .error (.compile e) := by
  have hselected : ∃ selection, q.compiler.selected q.predicate = .ok selection := by
    cases hf : q.predicate with
    | none => exact ⟨_, rfl⟩
    | some f =>
      obtain ⟨x, hx⟩ := hcompiles f hf
      exact ⟨x.selection, by rw [Compiler.selected, hx]; rfl⟩
  obtain ⟨selection, hselection⟩ := hselected
  have hsorted : q.compiler.sorted q.key = .error e := by
    rw [hk]
    exact h
  apply plan_of_compiler hsize
  rw [Compiler.plan_eq, hselection, hsorted]
  rfl

end Query

/-! ### The requests of a plan -/

namespace Plan

variable {p : Plan} {template : PageRequest}

theorem exists_request (h : p.isEmpty = false) : ∃ template, p.request? 0 = some template := by
  unfold isEmpty at h
  unfold request?
  cases hselection : p.selection with
  | nothing => simp [hselection] at h
  | matching f => exact ⟨_, rfl⟩

theorem request?_of_isEmpty (h : p.isEmpty = true) (page : UInt64) : p.request? page = none := by
  have hnothing : p.selection = .nothing := by simpa [isEmpty] using h
  rw [request?, hnothing]

/-- A request holds what the plan says, and nothing else. -/
theorem request?_eq_some_iff {page : UInt64} {r : PageRequest} :
    p.request? page = some r ↔
      p.selection = .matching r.filter ∧ r.sort = p.sort ∧ r.page = page ∧
        r.pageSize = p.pageSize := by
  obtain ⟨filter, sort, number, pageSize⟩ := r
  unfold request?
  cases p.selection with
  | nothing => simp
  | matching f =>
    simp only [Option.some.injEq, PageRequest.mk.injEq, Selection.matching.injEq]
    constructor
    · rintro ⟨rfl, rfl, rfl, rfl⟩
      exact ⟨rfl, rfl, rfl, rfl⟩
    · rintro ⟨rfl, rfl, rfl, rfl⟩
      exact ⟨rfl, rfl, rfl, rfl⟩

/-- The requests for all pages are made from that for page 0. -/
theorem request?_at (h : p.request? 0 = some template) (page : Nat) :
    p.request? (.ofNat page) = some (template.at page) := by
  obtain ⟨hselection, hsort, -, hsize⟩ := request?_eq_some_iff.mp h
  exact request?_eq_some_iff.mpr ⟨hselection, hsort, rfl, hsize⟩

end Plan
end Listing
