import Listing.Library.Basic

/-! # Built-in functions

  What is known of a built-in function from its place in the table. All
  of them but one compute a value of one type from their arguments; the
  one that tells the time looks at the scope, and only when it is called
  without arguments.
-/

namespace Listing
namespace Callable

/-! ### Functions of their arguments -/

/-- The function looks at its arguments alone, and its results are of the type. -/
structure Computes (f : Callable) (type : TypeTag) : Prop where
  ignoresScope : ∀ s t args, f s args = f t args
  type_eq : ∀ scope args v, f scope args = .ok v → v.type = type

theorem computes_changing (name : String) (change : String → String) :
    (changing name change).Computes .string where
  ignoresScope s t args := by
    unfold changing
    split <;> rfl
  type_eq scope args v h := by
    unfold changing at h
    split at h <;> cases h
    rfl

theorem computes_testing (name : String) (test : List Char → List Char → Bool) :
    (testing name test).Computes .boolean where
  ignoresScope s t args := by
    unfold testing
    split <;> rfl
  type_eq scope args v h := by
    unfold testing at h
    split at h <;> cases h
    rfl

theorem computes_contains : contains.Computes .boolean where
  ignoresScope s t args := by
    unfold contains
    split <;> rfl
  type_eq scope args v h := by
    unfold contains at h
    -- Texts and lists are searched.
    split at h <;> cases h
    · rfl
    · rfl

theorem computes_concat : concat.Computes .string where
  ignoresScope s t args := rfl
  type_eq scope args v h := by
    cases h
    rfl

theorem computes_fromUnit (u : TimeUnit) : (fromUnit u).Computes .duration where
  ignoresScope s t args := by
    unfold fromUnit
    split <;> rfl
  type_eq scope args v h := by
    unfold fromUnit at h
    split at h
    · split at h <;> cases h
      rfl
    · cases h
    · cases h

theorem computes_addUnit (u : TimeUnit) : (addUnit u).Computes .timestamp where
  ignoresScope s t args := by
    unfold addUnit
    split <;> rfl
  type_eq scope args v h := by
    unfold addUnit at h
    split at h
    · split at h <;> cases h
      rfl
    · cases h
    · cases h
    · cases h

/-! ### The time -/

theorem type_of_utcNow {scope : Scope} {args : List Value} {v : Value}
    (h : utcNow scope args = .ok v) : v.type = .timestamp := by
  unfold utcNow at h
  split at h <;> cases h
  rfl

/-- The time matters where there are no arguments. -/
theorem utcNow_congr {s t : Scope} {args : List Value} (hnow : args = [] → s.now = t.now) :
    utcNow s args = utcNow t args := by
  cases args with
  | nil => rw [utcNow, utcNow, hnow rfl]
  | cons v args => rfl

end Callable

namespace Library

open Callable

/-! ### The table -/

/-- Every entry but that of the time computes values of a type, and none makes lists. -/
theorem computes_of_mem_builtin : ∀ entry ∈ builtin.table.entries,
    entry = ("utcnow", utcNow) ∨ ∃ type, type ≠ .list ∧ entry.2.Computes type := by
  have hchanging (name : String) (change : String → String) :
      ∃ type, type ≠ .list ∧ (changing name change).Computes type :=
    ⟨.string, by decide, computes_changing name change⟩
  have htesting (name : String) (test : List Char → List Char → Bool) :
      ∃ type, type ≠ .list ∧ (testing name test).Computes type :=
    ⟨.boolean, by decide, computes_testing name test⟩
  have hfrom (u : TimeUnit) : ∃ type, type ≠ .list ∧ (fromUnit u).Computes type :=
    ⟨.duration, by decide, computes_fromUnit u⟩
  have hadd (u : TimeUnit) : ∃ type, type ≠ .list ∧ (addUnit u).Computes type :=
    ⟨.timestamp, by decide, computes_addUnit u⟩
  simp only [builtin, List.forall_mem_cons]
  exact ⟨.inr (hchanging _ _), .inr (hchanging _ _), .inr (hchanging _ _),
    .inr ⟨.string, by decide, computes_concat⟩, .inr (htesting _ _), .inr (htesting _ _),
    .inr ⟨.boolean, by decide, computes_contains⟩, .inl trivial, .inr (hfrom _), .inr (hfrom _),
    .inr (hfrom _), .inr (hfrom _), .inr (hadd _), .inr (hadd _), .inr (hadd _),
    .inr (hadd _), nofun⟩

/-! ### Calls by name -/

/-- The results of a call are of one type, which is not that of lists. -/
theorem type_of_call_builtin (name : String) : ∃ type, type ≠ .list ∧
    ∀ scope args v, builtin.call scope name args = .ok v → v.type = type := by
  cases hf : builtin.find? name with
  | none =>
    refine ⟨.boolean, by decide, fun scope args v h => ?_⟩
    rw [call, hf] at h
    cases h
  | some f =>
    have hcall (scope : Scope) (args : List Value) :
        builtin.call scope name args = f scope args := by
      rw [call, hf]
    simp only [hcall]
    rcases computes_of_mem_builtin _ (Table.mem_of_get? hf) with hclock | ⟨type, hlist, hf⟩
    · obtain ⟨-, rfl⟩ := Prod.mk.inj hclock
      exact ⟨.timestamp, by decide, fun scope args v h => type_of_utcNow h⟩
    · exact ⟨type, hlist, hf.type_eq⟩

/-- A call looks at the time only if it asks for it and for nothing else. -/
theorem call_builtin_congr {s t : Scope} {name : String} {args : List Value}
    (hnow : Text.lower name = "utcnow" → args = [] → s.now = t.now) :
    builtin.call s name args = builtin.call t name args := by
  unfold call
  cases hf : builtin.find? name with
  | none => rfl
  | some f =>
    rcases computes_of_mem_builtin _ (Table.mem_of_get? hf) with hclock | ⟨type, -, hf⟩
    · obtain ⟨hname, rfl⟩ := Prod.mk.inj hclock
      exact utcNow_congr (hnow hname)
    · exact hf.ignoresScope s t args

end Library

/-! ### What functions see of a scope -/

/-- Both scopes have the same value under each name, and tell the same time. -/
structure Scope.Agrees (s t : Scope) : Prop where
  captured : ∀ name, s.captured.get? name = t.captured.get? name
  now : s.now = t.now

/-- The function looks variables up by their names and asks for the time. The order in which the
variables came is hidden from it. -/
def Callable.LooksUp (f : Callable) : Prop := ∀ s t args, s.Agrees t → f s args = f t args

namespace Library

/-- All functions of the library see of a scope what its interface shows. -/
def LooksUp (lib : Library) : Prop := ∀ name f, lib.find? name = some f → f.LooksUp

theorem LooksUp.call_congr {lib : Library} {s t : Scope} (h : lib.LooksUp) (hscope : s.Agrees t)
    (name : String) (args : List Value) : lib.call s name args = lib.call t name args := by
  unfold call
  cases hf : lib.find? name with
  | none => rfl
  | some f => exact h name f hf s t args hscope

theorem looksUp_builtin : builtin.LooksUp := by
  intro name f hf s t args hscope
  have hcall (scope : Scope) : builtin.call scope name args = f scope args := by
    rw [call, hf]
  rw [← hcall, ← hcall]
  exact call_builtin_congr fun _ _ => hscope.now

theorem LooksUp.register {lib : Library} {f : Callable} (h : lib.LooksUp) (name : String)
    (hf : f.LooksUp) : (lib.register name f).LooksUp := by
  intro other g hg
  rw [find?_register] at hg
  split at hg
  · cases hg
    exact hf
  · exact h other g hg

end Library
end Listing
