import Listing.Proofs.Compile.Reading
import Listing.Proofs.Query.Planning
import Listing.Scenario.Task

/-! # Building queries

  A query is built by a sequence of calls that each say one thing about
  the listing. Conditions add up; of everything else the last word
  counts, and the settings only where nothing else was said. The plan
  can be read off the sequence, and calls about different things may
  change places.
-/

namespace Listing

open Time (Timestamp)

/-- One call of a sequence that builds a query. -/
inductive BuilderCall
  | filter (p : Lambda)
  | orderBy (key : Lambda)
  | orderByDescending (key : Lambda)
  | pageSize (size : UInt64)
  | settings (s : Settings)
  | bind (name : String) (value : Value)
  | now (time : Timestamp)
  | library (lib : Library)

/-- What a call is about. -/
inductive BuilderCall.Kind
  | condition
  | ordering
  | pageSize
  | settings
  | variable
  | time
  | functions
deriving DecidableEq

namespace BuilderCall

/-- Both orderings are about the same. -/
def kind : BuilderCall → Kind
  | .filter _ => .condition
  | .orderBy _ | .orderByDescending _ => .ordering
  | .pageSize _ => .pageSize
  | .settings _ => .settings
  | .bind _ _ => .variable
  | .now _ => .time
  | .library _ => .functions

/-- The query after the call. -/
def apply : BuilderCall → Query → Query
  | .filter p, q => q.filter p
  | .orderBy key, q => q.orderBy key
  | .orderByDescending key, q => q.orderByDescending key
  | .pageSize size, q => q.withPageSize size
  | .settings s, q => q.withSettings s
  | .bind name value, q => q.bind name value
  | .now time, q => q.withNow time
  | .library lib, q => q.withLibrary lib

/-! ### What a call says -/

/-- The condition. -/
def condition? : BuilderCall → Option Lambda
  | .filter p => some p
  | _ => none

/-- The key and the direction. -/
def ordering? : BuilderCall → Option (Lambda × Direction)
  | .orderBy key => some (key, .ascending)
  | .orderByDescending key => some (key, .descending)
  | _ => none

/-- The page size. -/
def pageSize? : BuilderCall → Option UInt64
  | .pageSize size => some size
  | _ => none

/-- The settings. -/
def settings? : BuilderCall → Option Settings
  | .settings s => some s
  | _ => none

/-- The variable and its value. -/
def binding? : BuilderCall → Option (String × Value)
  | .bind name value => some (name, value)
  | _ => none

/-- The value that the variable of the given name is bound to. -/
def value? (name : String) : BuilderCall → Option Value
  | .bind other value => if name = other then some value else none
  | _ => none

/-- The time. -/
def time? : BuilderCall → Option Timestamp
  | .now time => some time
  | _ => none

/-- The functions. -/
def library? : BuilderCall → Option Library
  | .library lib => some lib
  | _ => none

/-! ### What a sequence says -/

variable {α : Type}

/-- What the last of the calls tells, of those that tell such a thing. -/
def last? (tells : BuilderCall → Option α) (calls : List BuilderCall) : Option α :=
  calls.reverse.findSome? tells

/-- The conditions joined from the left, if there are any. -/
def chain? : List Lambda → Option Lambda
  | [] => none
  | p :: ps => some (ps.foldl Lambda.and p)

/-- All conditions in the order of the calls. -/
def predicate? (calls : List BuilderCall) : Option Lambda := chain? (calls.filterMap condition?)

/-- All variables that are bound. -/
def bound (calls : List BuilderCall) : Table Value := .ofList (calls.filterMap binding?)

/-- The key and the direction of the last ordering. Without one, the catalog's field and the
direction of the settings. -/
def sortOrder (catalog : Catalog) (settings : Settings) (calls : List BuilderCall) :
    Except CompileError SortOrder :=
  match last? ordering? calls with
  | some (key, direction) => do .ok ⟨← catalog.sortKey key, direction⟩
  | none => .ok ⟨catalog.defaultSort, settings.direction⟩

/-- The plan of a sequence of calls, read off the calls. The page size of the last call that gives
one, or else that of the last settings, is checked against the limit of the last settings. -/
def planned (catalog : Catalog) (now : Timestamp) (calls : List BuilderCall) :
    Except QueryFault Plan :=
  let settings := (last? settings? calls).getD .standard
  let pageSize := (last? pageSize? calls).getD settings.pageSize
  let compiler : Compiler :=
    { catalog
      library := (last? library? calls).getD .builtin
      scope := ⟨bound calls, (last? time? calls).getD now⟩ }
  if 1 ≤ pageSize ∧ pageSize ≤ settings.maxPageSize then
    Except.mapError .compile do
      let selection ← compiler.selected (predicate? calls)
      let sort ← sortOrder catalog settings calls
      .ok ⟨selection, sort, pageSize⟩
  else .error (.settings (.invalidPageSize pageSize settings.maxPageSize))

theorem last?_concat (tells : BuilderCall → Option α) (calls : List BuilderCall)
    (call : BuilderCall) : last? tells (calls ++ [call]) = (tells call).or (last? tells calls) := by
  rw [last?, List.reverse_concat, List.findSome?_cons]
  cases tells call <;> rfl

theorem filterMap_concat (tells : BuilderCall → Option α) (calls : List BuilderCall)
    (call : BuilderCall) :
    (calls ++ [call]).filterMap tells = calls.filterMap tells ++ (tells call).toList := by
  rw [List.filterMap_append]
  cases h : tells call with
  | none => rw [List.filterMap_cons_none h]; rfl
  | some a => rw [List.filterMap_cons_some h]; rfl

theorem predicate?_concat (calls : List BuilderCall) (call : BuilderCall) :
    predicate? (calls ++ [call]) =
      match call.condition? with
      | some p => some (match predicate? calls with
        | some earlier => earlier.and p
        | none => p)
      | none => predicate? calls := by
  rw [predicate?, predicate?, filterMap_concat]
  cases call.condition? with
  | none => exact congrArg chain? (List.append_nil _)
  | some p =>
    -- The chain begins with its first condition.
    cases calls.filterMap condition? with
    | nil => rfl
    | cons first rest => exact congrArg some List.foldl_append

theorem bound_concat (calls : List BuilderCall) (call : BuilderCall) :
    bound (calls ++ [call]) =
      match call.binding? with
      | some (name, value) => (bound calls).insert name value
      | none => bound calls := by
  rw [bound, bound, filterMap_concat]
  cases call.binding? with
  | none => exact congrArg Table.ofList (List.append_nil _)
  | some entry => exact List.foldl_append

/-- Each variable has the value that it was bound to last. -/
theorem get?_bound (calls : List BuilderCall) (name : String) :
    (bound calls).get? name = last? (value? name) calls := by
  induction calls using List.reverseRecOn with
  | nil => rfl
  | append_singleton calls call ih =>
    rw [bound_concat, last?_concat]
    cases call with
    | bind other value =>
      show ((bound calls).insert other value).get? name =
        (if name = other then some value else none).or _
      rw [Table.get?_insert, ih]
      split <;> rfl
    | _ => exact ih

/-! ### What a query keeps -/

/-- The query that keeps what the calls say. -/
def asked (catalog : Catalog) (now : Timestamp) (calls : List BuilderCall) : Query :=
  { catalog
    predicate := predicate? calls
    key := (last? ordering? calls).map Prod.fst
    direction := (last? ordering? calls).map Prod.snd
    pageSize := last? pageSize? calls
    settings := (last? settings? calls).getD .standard
    captured := bound calls
    now := (last? time? calls).getD now
    library := (last? library? calls).getD .builtin }

/-- One call more is one thing more to keep. -/
theorem apply_asked (catalog : Catalog) (now : Timestamp) (calls : List BuilderCall)
    (call : BuilderCall) :
    call.apply (asked catalog now calls) = asked catalog now (calls ++ [call]) := by
  simp only [asked, last?_concat, predicate?_concat, bound_concat]
  -- A call tells one thing, and of all other things the calls before it keep the last word.
  cases call <;> rfl

theorem sortOrder_eq (c : Compiler) (s : Settings) (calls : List BuilderCall) :
    sortOrder c.catalog s calls = (do
      let field ← c.sorted ((last? ordering? calls).map Prod.fst)
      .ok ⟨field, ((last? ordering? calls).map Prod.snd).getD s.direction⟩) := by
  unfold sortOrder
  rcases last? ordering? calls with _ | ⟨key, direction⟩ <;> rfl

theorem plan_asked (catalog : Catalog) (now : Timestamp) (calls : List BuilderCall) :
    (asked catalog now calls).plan = planned catalog now calls := by
  have hplan (c : Compiler) (s : Settings) (pageSize : UInt64) :
      c.plan (predicate? calls) ((last? ordering? calls).map Prod.fst)
          (((last? ordering? calls).map Prod.snd).getD s.direction) pageSize = (do
        let selection ← c.selected (predicate? calls)
        let sort ← sortOrder c.catalog s calls
        .ok ⟨selection, sort, pageSize⟩) := by
    simp only [Compiler.plan_eq, sortOrder_eq, bind_assoc]
    rfl
  rw [Query.plan_eq, planned]
  exact if_congr Iff.rfl (congrArg _ (hplan _ _ _)) rfl

theorem library_of_last? {calls : List BuilderCall} {lib : Library}
    (h : last? library? calls = some lib) : .library lib ∈ calls := by
  obtain ⟨call, hcall, hlib⟩ := List.exists_of_findSome?_eq_some h
  cases call <;> cases hlib
  exact List.mem_reverse.mp hcall

/-- Calls about different things do not see each other. -/
theorem apply_comm {a b : BuilderCall} (h : a.kind ≠ b.kind) (q : Query) :
    b.apply (a.apply q) = a.apply (b.apply q) := by
  cases a <;> cases b <;> first | rfl | exact absurd rfl h

end BuilderCall

/-! ### The order of variables -/

theorem Compiler.plan_eq_of_agrees (catalog : Catalog) {lib : Library} (hlib : lib.LooksUp)
    {s t : Scope} (h : s.Agrees t) (predicate key : Option Lambda) (direction : Direction)
    (pageSize : UInt64) :
    (Compiler.mk catalog lib s).plan predicate key direction pageSize =
      (Compiler.mk catalog lib t).plan predicate key direction pageSize := by
  have hselected : (Compiler.mk catalog lib s).selected predicate =
      (Compiler.mk catalog lib t).selected predicate := by
    cases predicate with
    | none => rfl
    | some p => rw [selected, selected, compile_eq_of_agrees catalog hlib h p]
  have hsorted :
      (Compiler.mk catalog lib s).sorted key = (Compiler.mk catalog lib t).sorted key := by
    cases key <;> rfl
  rw [plan_eq, plan_eq, hselected, hsorted]

namespace Query

open BuilderCall

/-- The other query has the same variables, which may have come in another order. -/
inductive Reordered (q : Query) : Query → Prop
  | captured (t : Table Value) (h : ∀ name, q.captured.get? name = t.get? name) :
    Reordered q { q with captured := t }

variable {q r : Query}

theorem Reordered.apply (h : q.Reordered r) (call : BuilderCall) :
    (call.apply q).Reordered (call.apply r) := by
  obtain ⟨t, h⟩ := h
  cases call with
  | bind name value =>
    refine .captured (t.insert name value) fun other => ?_
    show (q.captured.insert name value).get? other = _
    rw [Table.get?_insert, Table.get?_insert, h other]
  | _ => exact .captured t h

theorem Reordered.foldl (h : q.Reordered r) (calls : List BuilderCall) :
    (calls.foldl (fun q call => call.apply q) q).Reordered
      (calls.foldl (fun q call => call.apply q) r) := by
  induction calls generalizing q r with
  | nil => exact h
  | cons call calls ih => exact ih (h.apply call)

theorem Reordered.plan_eq (h : q.Reordered r) (hlib : q.library.LooksUp) : q.plan = r.plan := by
  obtain ⟨t, h⟩ := h
  have hagrees : (Scope.mk q.captured q.now).Agrees ⟨t, q.now⟩ := ⟨h, rfl⟩
  rw [Query.plan_eq, Query.plan_eq]
  exact if_congr Iff.rfl
    (congrArg _ (Compiler.plan_eq_of_agrees q.catalog hlib hagrees _ _ _ _)) rfl

theorem reordered_bind {name other : String} (hne : name ≠ other) (v w : Value) (q : Query) :
    ((q.bind name v).bind other w).Reordered ((q.bind other w).bind name v) := by
  refine .captured ((q.captured.insert other w).insert name v) fun x => ?_
  show ((q.captured.insert name v).insert other w).get? x = _
  simp only [Table.get?_insert]
  by_cases hx : x = name
  · rw [if_pos hx, if_neg (hx ▸ hne), if_pos hx]
  · rw [if_neg hx, if_neg hx]

/-! ### Sequences of calls -/

/-- The query that a sequence of calls builds from all records of a catalog. -/
def built (catalog : Catalog) (now : Timestamp) (calls : List BuilderCall) : Query :=
  calls.foldl (fun q call => call.apply q) (.ofCatalog catalog now)

variable (catalog : Catalog) (now : Timestamp)

theorem built_append (before after : List BuilderCall) :
    built catalog now (before ++ after) =
      after.foldl (fun q call => call.apply q) (built catalog now before) :=
  List.foldl_append

theorem built_eq_asked (calls : List BuilderCall) :
    built catalog now calls = asked catalog now calls := by
  -- The last call is the one that counts, so the induction takes the calls from their end.
  induction calls using List.reverseRecOn with
  | nil => rfl
  | append_singleton calls call ih =>
    rw [built_append, ih]
    exact apply_asked catalog now calls call

theorem looksUp_built {calls : List BuilderCall}
    (h : ∀ lib, .library lib ∈ calls → lib.LooksUp) :
    (built catalog now calls).library.LooksUp := by
  rw [built_eq_asked]
  show ((last? library? calls).getD .builtin).LooksUp
  cases hlast : last? library? calls with
  | none => exact Library.looksUp_builtin
  | some lib => exact h lib (library_of_last? hlast)

/-- The plan of a query can be read off the calls that built it. So neighbouring calls about
different things may change places, and so may those that bind different variables. -/
theorem plan_of_builder_calls :
    (∀ calls, (built catalog now calls).plan = planned catalog now calls ∧
      ∀ name, (bound calls).get? name = last? (value? name) calls) ∧
    (∀ before a b after, a.kind ≠ b.kind →
      (built catalog now (before ++ a :: b :: after)).plan =
        (built catalog now (before ++ b :: a :: after)).plan) ∧
    ∀ before name v other w after, name ≠ other →
      (∀ lib, .library lib ∈ before ++ after → lib.LooksUp) →
      (built catalog now (before ++ .bind name v :: .bind other w :: after)).plan =
        (built catalog now (before ++ .bind other w :: .bind name v :: after)).plan := by
  refine ⟨fun calls => ⟨?_, get?_bound calls⟩, ?_, ?_⟩
  · rw [built_eq_asked, plan_asked]
  · intro before a b after hkind
    rw [built_append, built_append, List.foldl_cons, List.foldl_cons, List.foldl_cons,
      List.foldl_cons, apply_comm hkind]
  · intro before name v other w after hne hlib
    have hlibrary : ∀ lib, .library lib ∈ before ++ .bind name v :: .bind other w :: after →
        lib.LooksUp := by
      intro lib hmem
      apply hlib lib
      simpa using hmem
    have hreordered :
        (built catalog now (before ++ .bind name v :: .bind other w :: after)).Reordered
          (built catalog now (before ++ .bind other w :: .bind name v :: after)) := by
      rw [built_append, built_append]
      exact (reordered_bind hne v w (built catalog now before)).foldl after
    exact hreordered.plan_eq (looksUp_built catalog now hlibrary)

/-- The task that the function `Current` looks up. Its variable is bound before or after another
one, and a page size above the standard limit is given before or after the settings allow it. -/
theorem plan_of_builder_calls_current_task :
    let current : Callable := fun scope _ =>
      match scope.captured.get? "id" with
      | some v => .ok v
      | none => .error (.unknownVariable "id")
    let isCurrent : Lambda :=
      ⟨"x", .binary (.member .parameter "TaskId") (.compare .equal) (.call "Current" [])⟩
    let before : List BuilderCall :=
      [.filter isCurrent, .library (Library.builtin.register "Current" current)]
    let id : BuilderCall := .bind "id" (.string "t")
    let limit : BuilderCall := .bind "limit" (.int 3)
    let ordering : BuilderCall := .orderBy ⟨"x", .member .parameter "StartedAt"⟩
    let size : BuilderCall := .pageSize 5000
    let settings : BuilderCall := .settings ⟨20, .descending, 10000⟩
    let plan : Plan :=
      { selection := .matching ⟨[⟨[⟨⟨.task, .summary, 1⟩, .string .equal "t"⟩]⟩]⟩
        sort := ⟨⟨.task, .summary, 8⟩, .ascending⟩
        pageSize := 5000 }
    let q := built (.ofEntity .task) Scenario.noon
    (q (before ++ id :: limit :: [ordering, settings, size])).plan = .ok plan ∧
      (q (before ++ limit :: id :: [ordering, settings, size])).plan = .ok plan ∧
      (q (before ++ limit :: id :: [ordering] ++ size :: settings :: [])).plan = .ok plan := by
  intro current isCurrent before id limit ordering size settings plan q
  have hcurrent : current.LooksUp := by
    intro s t args h
    show (match s.captured.get? "id" with | some v => _ | none => _) = _
    rw [h.captured "id"]
  have hlib (lib : Library)
      (hmem : .library lib ∈ before ++ [ordering, settings, size]) : lib.LooksUp := by
    have heq : lib = Library.builtin.register "Current" current := by
      simpa [before, ordering, settings, size] using hmem
    rw [heq]
    exact Library.looksUp_builtin.register "Current" hcurrent
  obtain ⟨hplan, hkinds, hbinds⟩ := plan_of_builder_calls (.ofEntity .task) Scenario.noon
  have hfirst : (q (before ++ id :: limit :: [ordering, settings, size])).plan = .ok plan :=
    (hplan _).1.trans rfl
  have hsecond : (q (before ++ limit :: id :: [ordering, settings, size])).plan = .ok plan :=
    (hbinds before "id" (.string "t") "limit" (.int 3) _ (by decide) hlib).symm.trans hfirst
  have hthird := hkinds (before ++ limit :: id :: [ordering]) settings size [] nofun
  exact ⟨hfirst, hsecond, hthird.symm.trans hsecond⟩

end Query
end Listing
