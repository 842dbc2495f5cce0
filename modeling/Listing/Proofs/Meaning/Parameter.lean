import Listing.Proofs.Compile.Derivation
import Listing.Proofs.Expr.Context
import Listing.Proofs.Meaning.Evaluation
import Listing.Scenario.Task

/-! # The parameter under evaluation

  Without a record an expression may still have a value, although it is
  open: evaluation goes from left to right, stops at the first failure
  and leaves the right side of a decided operator alone, so that it need
  not come to the parameter. If it does come there, it fails for want of
  the record and in no other way. If it does not, its result is the same
  as on every record.
-/

namespace Listing

/-! ### A value for the parameter -/

namespace Expr

mutual

/-- The expression with a constant in place of its parameter. -/
def supply (record : Value) : Expr → Expr
  | .parameter => .constant record
  | .constant value => .constant value
  | .captured name => .captured name
  | .member target name => .member (target.supply record) name
  | .call function args => .call function (supplyAll record args)
  | .method target function args =>
    .method (target.supply record) function (supplyAll record args)
  | .list items => .list (supplyAll record items)
  | .binary left op right => .binary (left.supply record) op (right.supply record)
  | .unary op operand => .unary op (operand.supply record)

/-- Several expressions with a constant in place of their parameter. -/
def supplyAll (record : Value) : List Expr → List Expr
  | [] => []
  | e :: es => e.supply record :: supplyAll record es

end

end Expr

/-! ### Failures for want of the record -/

/-- The second computation is the same as the first, unless the first one asks for the record. -/
def SameOnceSupplied {α : Type} (x y : Except EvalError α) : Prop :=
  x = .error .parameterReference ∨ x = y

namespace SameOnceSupplied

variable {α β : Type}

theorem refl (x : Except EvalError α) : SameOnceSupplied x x := .inr rfl

theorem bind {x y : Except EvalError α} {f g : α → Except EvalError β}
    (h : SameOnceSupplied x y) (hf : ∀ a, SameOnceSupplied (f a) (g a)) :
    SameOnceSupplied (x >>= f) (y >>= g) := by
  rcases h with rfl | rfl
  · exact .inl rfl
  · cases x with
    | error e => exact .refl _
    | ok a => exact hf a

end SameOnceSupplied

namespace Expr

variable {lib : Library} {s : Scope}

theorem evaluateAll_supplyAll {record : Value} {es : List Expr}
    (h : ∀ e ∈ es, SameOnceSupplied (e.evaluate lib s) ((e.supply record).evaluate lib s)) :
    SameOnceSupplied (evaluateAll lib s es) (evaluateAll lib s (supplyAll record es)) := by
  induction es with
  | nil => exact .refl _
  | cons e es ih =>
    obtain ⟨he, hes⟩ := List.forall_mem_cons.mp h
    rw [supplyAll, evaluateAll, evaluateAll]
    exact he.bind fun _ => (ih hes).bind fun _ => .refl _

/-- Evaluation asks for the record, or it has the same result on every record. -/
theorem evaluate_supply (record : Value) (e : Expr) :
    SameOnceSupplied (e.evaluate lib s) ((e.supply record).evaluate lib s) := by
  induction e using parts_induction with | node e ih
  cases e with
  | parameter => exact .inl rfl
  | constant _ | captured _ => exact .refl _
  | member target name =>
    rw [supply, evaluate, evaluate]
    exact (ih target List.mem_cons_self).bind fun _ => .refl _
  | call function args =>
    rw [supply, evaluate, evaluate]
    exact (evaluateAll_supplyAll ih).bind fun _ => .refl _
  | method target function args =>
    obtain ⟨htarget, hargs⟩ := List.forall_mem_cons.mp ih
    rw [supply, evaluate, evaluate]
    exact htarget.bind fun _ => (evaluateAll_supplyAll hargs).bind fun _ => .refl _
  | list items =>
    rw [supply, evaluate, evaluate]
    exact (evaluateAll_supplyAll ih).bind fun _ => .refl _
  | binary left op right =>
    have hleft := ih left List.mem_cons_self
    have hright := ih right (List.mem_cons_of_mem _ List.mem_cons_self)
    cases op with
    | logic op =>
      rw [supply, evaluate, evaluate]
      refine hleft.bind fun _ => (SameOnceSupplied.refl _).bind fun _ => ?_
      -- If the left side decides, neither right side is evaluated.
      split
      · exact .refl _
      · exact hright.bind fun _ => .refl _
    | arith op | compare op =>
      rw [supply, evaluate, evaluate]
      exact hleft.bind fun _ => hright.bind fun _ => .refl _
  | unary op operand =>
    rw [supply, evaluate, evaluate]
    exact (ih operand List.mem_cons_self).bind fun _ => .refl _

/-! ### The order of evaluation -/

/-- Evaluation of the frame comes to its open place: everything before it has a value, and the
left side of a logical operator does not decide. -/
def Frame.Ready (lib : Library) (s : Scope) : Frame → Prop
  | .member _ | .receiver _ _ | .leftOperand _ _ | .unary _ => True
  | .argument _ before _ | .item before _ => ∃ vs, evaluateAll lib s before = .ok vs
  | .methodArgument target _ before _ =>
    (∃ v, target.evaluate lib s = .ok v) ∧ ∃ vs, evaluateAll lib s before = .ok vs
  | .rightOperand left (.logic op) => left.evaluate lib s = .ok (.boolean !op.decider)
  | .rightOperand left _ => ∃ v, left.evaluate lib s = .ok v

/-- Evaluation of the whole comes to the expression. -/
inductive ComesTo (lib : Library) (s : Scope) (e : Expr) : Expr → Prop
  | here : ComesTo lib s e e
  | inside (frame : Frame) {part : Expr} (hready : frame.Ready lib s)
      (h : ComesTo lib s e part) : ComesTo lib s e (frame.fill part)

theorem ComesTo.occurs {e whole : Expr} (h : ComesTo lib s e whole) : e.Occurs whole := by
  induction h with
  | here => exact .here
  | inside frame _ _ ih => exact .inside (frame.mem_parts_fill _) ih

/-- Of several expressions the first that fails is the failure of all. -/
theorem evaluateAll_of_error {before after : List Expr} {e : Expr} {vs : List Value}
    {err : EvalError} (hbefore : evaluateAll lib s before = .ok vs)
    (he : e.evaluate lib s = .error err) :
    evaluateAll lib s (before ++ e :: after) = .error err := by
  -- The values before the failure are taken off one by one.
  induction before generalizing vs with
  | nil =>
    rw [List.nil_append, evaluateAll, he]
    rfl
  | cons d before ih =>
    rw [evaluateAll] at hbefore
    obtain ⟨v, hv, hbefore⟩ := bind_eq_ok.mp hbefore
    obtain ⟨vs, hvs, -⟩ := bind_eq_ok.mp hbefore
    rw [List.cons_append, evaluateAll, hv, ih hvs]
    rfl

theorem exists_of_evaluateAll_error {es : List Expr} {err : EvalError}
    (h : evaluateAll lib s es = .error err) :
    ∃ before e after, es = before ++ e :: after ∧
      (∃ vs, evaluateAll lib s before = .ok vs) ∧ e.evaluate lib s = .error err := by
  induction es with
  | nil => cases h
  | cons e es ih =>
    rw [evaluateAll] at h
    rcases bind_eq_error.mp h with he | ⟨v, hv, h⟩
    · exact ⟨[], e, es, rfl, ⟨[], rfl⟩, he⟩
    · have hes : evaluateAll lib s es = .error err := by
        rcases bind_eq_error.mp h with hes | ⟨_, _, hok⟩
        · exact hes
        · cases hok
      obtain ⟨before, d, after, rfl, ⟨vs, hvs⟩, hd⟩ := ih hes
      refine ⟨e :: before, d, after, rfl, ⟨v :: vs, ?_⟩, hd⟩
      rw [evaluateAll, hv, hvs]
      rfl

/-- A failure at the open place is the failure of the frame. -/
theorem Frame.evaluate_fill_of_error {frame : Frame} {e : Expr} {err : EvalError}
    (hready : frame.Ready lib s) (h : e.evaluate lib s = .error err) :
    (frame.fill e).evaluate lib s = .error err := by
  cases frame with
  | member name =>
    rw [fill, evaluate, h]
    rfl
  | argument function before after =>
    obtain ⟨vs, hvs⟩ := hready
    rw [fill, evaluate, evaluateAll_of_error hvs h]
    rfl
  | receiver function args =>
    rw [fill, evaluate, h]
    rfl
  | methodArgument target function before after =>
    obtain ⟨⟨v, hv⟩, vs, hvs⟩ := hready
    rw [fill, evaluate, hv, evaluateAll_of_error hvs h]
    rfl
  | item before after =>
    obtain ⟨vs, hvs⟩ := hready
    rw [fill, evaluate, evaluateAll_of_error hvs h]
    rfl
  | leftOperand op right =>
    cases op with
    | logic op | arith op | compare op =>
      rw [fill, evaluate, h]
      rfl
  | rightOperand left op =>
    cases op with
    | logic op =>
      -- The left side has the truth value that leaves the matter to the right side.
      have hleft : left.evaluate lib s = .ok (.boolean !op.decider) := hready
      rw [fill, evaluate, hleft, h]
      cases op <;> rfl
    | arith op | compare op =>
      obtain ⟨v, hv⟩ := hready
      rw [fill, evaluate, hv, h]
      rfl
  | unary op =>
    rw [fill, evaluate, h]
    rfl

/-- The failure of what evaluation comes to is the failure of the whole. -/
theorem ComesTo.evaluate_eq_error {e whole : Expr} (h : ComesTo lib s e whole) {err : EvalError}
    (he : e.evaluate lib s = .error err) : whole.evaluate lib s = .error err := by
  -- From the inside out: each frame hands the failure on.
  induction h with
  | here => exact he
  | inside frame hready _ ih => exact frame.evaluate_fill_of_error hready ih

end Expr

/-! ### What never asks for the record -/

/-- The computation does not ask for the record. -/
def NeedsNoRecord {α : Type} (x : Except EvalError α) : Prop := x ≠ .error .parameterReference

theorem NeedsNoRecord.ite {α : Type} {p : Prop} [Decidable p] {x y : Except EvalError α}
    (hx : NeedsNoRecord x) (hy : NeedsNoRecord y) : NeedsNoRecord (if p then x else y) := by
  split
  · exact hx
  · exact hy

namespace Value

theorem needsNoRecord_noRule (l : Value) (op : BinaryOp) (r : Value) :
    NeedsNoRecord (.error (noRule l op r) : Except EvalError Value) := by
  unfold noRule
  split
  · exact nofun
  · exact nofun

theorem needsNoRecord_orOverflow (operation : String) (v? : Option Value) :
    NeedsNoRecord (orOverflow operation v?) := by
  cases v? with
  | none => exact nofun
  | some v => exact nofun

theorem needsNoRecord_intArith (op : ArithOp) (a b : Int64) :
    NeedsNoRecord (intArith op a b) := by
  cases op with
  | add | sub | mul => exact needsNoRecord_orOverflow _ _
  | div | mod => exact .ite nofun (needsNoRecord_orOverflow _ _)

theorem needsNoRecord_arith (op : ArithOp) (l r : Value) : NeedsNoRecord (arith op l r) := by
  unfold arith
  split
  · exact needsNoRecord_intArith _ _ _
  · exact nofun
  · exact nofun
  · exact needsNoRecord_orOverflow _ _
  · exact needsNoRecord_orOverflow _ _
  · exact nofun
  · exact needsNoRecord_orOverflow _ _
  · exact needsNoRecord_orOverflow _ _
  · exact needsNoRecord_orOverflow _ _
  · exact nofun
  · exact needsNoRecord_noRule _ _ _

theorem needsNoRecord_equality (c : Comparison) (l r : Value) :
    NeedsNoRecord (equality c l r) := by
  unfold equality
  split
  · exact nofun
  · exact nofun
  · exact nofun

theorem needsNoRecord_compareBy (c : Comparison) (l r : Value) :
    NeedsNoRecord (compareBy c l r) := by
  unfold compareBy
  split
  · exact nofun
  · exact nofun
  · exact nofun
  · exact nofun
  · exact nofun
  · exact needsNoRecord_equality c _ _
  · exact needsNoRecord_equality c _ _
  · exact needsNoRecord_equality c _ _
  · exact needsNoRecord_equality c _ _
  · exact needsNoRecord_noRule _ _ _

theorem needsNoRecord_asBool (v : Value) : NeedsNoRecord v.asBool := by
  unfold asBool
  split
  · exact nofun
  · exact nofun

theorem needsNoRecord_applyUnary (op : UnaryOp) (v : Value) :
    NeedsNoRecord (applyUnary op v) := by
  unfold applyUnary
  split
  · exact nofun
  · exact needsNoRecord_orOverflow _ _
  · exact nofun
  · exact nofun

theorem needsNoRecord_member (v : Value) (name : String) : NeedsNoRecord (v.member name) := by
  have hint (n : Int) : NeedsNoRecord (member.int n) := nofun
  have hmissing (v : Value) : NeedsNoRecord (member.missing v name) := nofun
  unfold member
  split
  · exact (hint _).ite (hmissing _)
  · exact (hint _).ite (hmissing _)
  · exact (hint _).ite (hmissing _)
  · exact (hint _).ite (hmissing _)
  · exact (hint _).ite ((hint _).ite ((hint _).ite (hmissing _)))
  · exact hmissing _

end Value

/-! ### Functions that know of no record -/

/-- The function does not ask for the record. -/
def Callable.NeedsNoRecord (f : Callable) : Prop := ∀ s args, Listing.NeedsNoRecord (f s args)

namespace Callable

theorem needsNoRecord_changing (name : String) (change : String → String) :
    (changing name change).NeedsNoRecord := by
  intro s args
  unfold changing
  split <;> exact nofun

theorem needsNoRecord_testing (name : String) (test : List Char → List Char → Bool) :
    (testing name test).NeedsNoRecord := by
  intro s args
  unfold testing
  split <;> exact nofun

theorem needsNoRecord_contains : contains.NeedsNoRecord := by
  intro s args
  unfold contains
  split <;> exact nofun

theorem needsNoRecord_utcNow : utcNow.NeedsNoRecord := by
  intro s args
  unfold utcNow
  split <;> exact nofun

theorem needsNoRecord_fromUnit (u : TimeUnit) : (fromUnit u).NeedsNoRecord := by
  intro s args
  unfold fromUnit
  split
  · split <;> exact nofun
  · exact nofun
  · exact nofun

theorem needsNoRecord_addUnit (u : TimeUnit) : (addUnit u).NeedsNoRecord := by
  intro s args
  unfold addUnit
  split
  · split <;> exact nofun
  · exact nofun
  · exact nofun
  · exact nofun

end Callable

namespace Library

open Callable

/-- No function of the library asks for the record. -/
def NeedsNoRecord (lib : Library) : Prop := ∀ name f, lib.find? name = some f → f.NeedsNoRecord

theorem NeedsNoRecord.call {lib : Library} (h : lib.NeedsNoRecord) (s : Scope) (name : String)
    (args : List Value) : Listing.NeedsNoRecord (lib.call s name args) := by
  unfold Library.call
  split
  · exact h name _ ‹_› s args
  · exact nofun

theorem needsNoRecord_builtin : builtin.NeedsNoRecord := by
  have hentries : ∀ entry ∈ builtin.table.entries, entry.2.NeedsNoRecord := by
    simp only [builtin, List.forall_mem_cons]
    exact ⟨needsNoRecord_changing _ _, needsNoRecord_changing _ _, needsNoRecord_changing _ _,
      fun _ _ => nofun, needsNoRecord_testing _ _, needsNoRecord_testing _ _,
      needsNoRecord_contains, needsNoRecord_utcNow, needsNoRecord_fromUnit _,
      needsNoRecord_fromUnit _, needsNoRecord_fromUnit _, needsNoRecord_fromUnit _,
      needsNoRecord_addUnit _, needsNoRecord_addUnit _, needsNoRecord_addUnit _,
      needsNoRecord_addUnit _, nofun⟩
  intro name f hf
  exact hentries _ (Table.mem_of_get? hf)

end Library

/-! ### Where a failure comes from -/

namespace Expr

variable {lib : Library} {s : Scope}

/-- If several expressions ask for the record, it is the first of them without a value that comes
to the parameter. -/
theorem exists_comesTo_of_evaluateAll {es : List Expr}
    (h : evaluateAll lib s es = .error .parameterReference)
    (ih : ∀ e ∈ es, e.evaluate lib s = .error .parameterReference → ComesTo lib s .parameter e) :
    ∃ before e after, es = before ++ e :: after ∧
      (∃ vs, evaluateAll lib s before = .ok vs) ∧ ComesTo lib s .parameter e := by
  obtain ⟨before, e, after, rfl, hbefore, he⟩ := exists_of_evaluateAll_error h
  exact ⟨before, e, after, rfl, hbefore, ih e (List.mem_append_cons_self) he⟩

/-- A failure for want of the record comes from an occurrence of the parameter that evaluation
comes to. -/
theorem comesTo_parameter (hlib : lib.NeedsNoRecord) {e : Expr}
    (h : e.evaluate lib s = .error .parameterReference) : ComesTo lib s .parameter e := by
  -- A node fails where one of its parts does, and then it is a frame around this part, or in its
  -- own operation, which never asks for the record.
  induction e using parts_induction with | node e ih
  cases e with
  | parameter => exact .here
  | constant v => cases h
  | captured name =>
    rw [evaluate] at h
    split at h <;> cases h
  | member target name =>
    rw [evaluate] at h
    rcases bind_eq_error.mp h with htarget | ⟨v, -, hmember⟩
    · exact .inside (.member name) trivial (ih target List.mem_cons_self htarget)
    · exact absurd hmember (v.needsNoRecord_member name)
  | call function args =>
    rw [evaluate] at h
    rcases bind_eq_error.mp h with hargs | ⟨vs, -, hcall⟩
    · obtain ⟨before, arg, after, rfl, hbefore, harg⟩ := exists_comesTo_of_evaluateAll hargs ih
      exact .inside (.argument function before after) hbefore harg
    · exact absurd hcall (hlib.call s function vs)
  | method target function args =>
    obtain ⟨ihTarget, ihArgs⟩ := List.forall_mem_cons.mp ih
    rw [evaluate] at h
    rcases bind_eq_error.mp h with htarget | ⟨v, hv, h⟩
    · exact .inside (.receiver function args) trivial (ihTarget htarget)
    rcases bind_eq_error.mp h with hargs | ⟨vs, -, hcall⟩
    · obtain ⟨before, arg, after, rfl, hbefore, harg⟩ := exists_comesTo_of_evaluateAll hargs ihArgs
      exact .inside (.methodArgument target function before after) ⟨⟨v, hv⟩, hbefore⟩ harg
    · exact absurd hcall (hlib.call s function (v :: vs))
  | list items =>
    rw [evaluate] at h
    rcases bind_eq_error.mp h with hitems | ⟨vs, -, hlist⟩
    · obtain ⟨before, item, after, rfl, hbefore, hitem⟩ := exists_comesTo_of_evaluateAll hitems ih
      exact .inside (.item before after) hbefore hitem
    · cases hlist
  | binary left op right =>
    have ihLeft := ih left List.mem_cons_self
    have ihRight := ih right (List.mem_cons_of_mem _ List.mem_cons_self)
    cases op with
    | logic op =>
      rw [evaluate] at h
      rcases bind_eq_error.mp h with hleft | ⟨v, hv, h⟩
      · exact .inside (.leftOperand (.logic op) right) trivial (ihLeft hleft)
      rcases bind_eq_error.mp h with hbool | ⟨l, hl, h⟩
      · exact absurd hbool v.needsNoRecord_asBool
      -- The left side decides, or it has the other truth value and the right side is next.
      split at h
      · cases h
      · next hdecider =>
        have hready : left.evaluate lib s = .ok (.boolean !op.decider) := by
          rw [hv, Value.asBool_eq_ok_iff.mp hl, Bool.eq_not.mpr hdecider]
        rcases bind_eq_error.mp h with hright | ⟨w, -, h⟩
        · exact .inside (.rightOperand left (.logic op)) hready (ihRight hright)
        rcases bind_eq_error.mp h with hbool | ⟨r, -, hr⟩
        · exact absurd hbool w.needsNoRecord_asBool
        · cases hr
    | arith op =>
      rw [evaluate] at h
      rcases bind_eq_error.mp h with hleft | ⟨l, hl, h⟩
      · exact .inside (.leftOperand (.arith op) right) trivial (ihLeft hleft)
      rcases bind_eq_error.mp h with hright | ⟨r, -, harith⟩
      · exact .inside (.rightOperand left (.arith op)) ⟨l, hl⟩ (ihRight hright)
      · exact absurd harith (Value.needsNoRecord_arith op l r)
    | compare op =>
      rw [evaluate] at h
      rcases bind_eq_error.mp h with hleft | ⟨l, hl, h⟩
      · exact .inside (.leftOperand (.compare op) right) trivial (ihLeft hleft)
      rcases bind_eq_error.mp h with hright | ⟨r, -, hcompare⟩
      · exact .inside (.rightOperand left (.compare op)) ⟨l, hl⟩ (ihRight hright)
      · exact absurd hcompare (Value.needsNoRecord_compareBy op l r)
  | unary op operand =>
    rw [evaluate] at h
    rcases bind_eq_error.mp h with hoperand | ⟨v, -, hunary⟩
    · exact .inside (.unary op) trivial (ih operand List.mem_cons_self hoperand)
    · exact absurd hunary (Value.needsNoRecord_applyUnary op v)

/-! ### Evaluation without a record -/

/-- An expression whose functions do not ask for the record either has the same result whatever
the record is, a value or a failure, or it fails for want of the record. It does so exactly if
evaluation comes to the parameter, which it never does in a closed expression. The expressions
that are not evaluated on their own are those in which the parameter occurs. -/
theorem evaluate_without_record (hlib : lib.NeedsNoRecord) (s : Scope) (e : Expr) :
    (∀ record, e.evaluate lib s = .error .parameterReference ∨
      e.evaluate lib s = (e.supply record).evaluate lib s) ∧
    (e.evaluate lib s = .error .parameterReference ↔ ComesTo lib s .parameter e) ∧
    (e.isClosed = true → e.evaluate lib s ≠ .error .parameterReference) ∧
    (e.evaluateIfClosed lib s = .ok none ↔ Expr.parameter.Occurs e) := by
  have hasks : e.evaluate lib s = .error .parameterReference ↔ ComesTo lib s .parameter e :=
    ⟨comesTo_parameter hlib, fun h => h.evaluate_eq_error rfl⟩
  refine ⟨fun record => evaluate_supply record e, hasks, fun hclosed h => ?_, ?_⟩
  · have hopen : e.isClosed = false := isClosed_eq_false_iff.mpr (hasks.mp h).occurs
    rw [hclosed] at hopen
    cases hopen
  · rw [← isClosed_eq_false_iff, evaluateIfClosed]
    cases e.isClosed with
    | false => simp
    | true => cases e.evaluate lib s <;> simp [Except.map]

/-- On its own `false && x.Flag` is false and `limit + x` lacks the variable, as on every record;
`["a"].Contains(x)` comes to the record, and `UtcNow()` has none to come to. -/
theorem evaluate_without_record_at_noon :
    let lib : Library := .builtin
    let s : Scope := ⟨.empty, Scenario.noon⟩
    let decided : Expr :=
      .binary (.constant (.boolean false)) (.logic .and) (.member .parameter "Flag")
    let unbound : Expr := .binary (.captured "limit") (.arith .add) .parameter
    let contained : Expr := .method (.list [.constant (.string "a")]) "Contains" [.parameter]
    let clock : Expr := .call "UtcNow" []
    lib.NeedsNoRecord ∧
      (∀ record, (decided.supply record).evaluate lib s = .ok (.boolean false)) ∧
      (∀ record, (unbound.supply record).evaluate lib s = .error (.unknownVariable "limit")) ∧
      Expr.parameter.Occurs decided ∧ ComesTo lib s .parameter contained ∧
      clock.evaluate lib s ≠ .error .parameterReference := by
  intro lib s decided unbound contained clock
  have hlib : lib.NeedsNoRecord := Library.needsNoRecord_builtin
  have hdecided : decided.evaluate lib s = .ok (.boolean false) := rfl
  have hunbound : unbound.evaluate lib s = .error (.unknownVariable "limit") := rfl
  obtain ⟨hsupplied, -, -, hopen⟩ := evaluate_without_record hlib s decided
  obtain ⟨hfails, -, -, -⟩ := evaluate_without_record hlib s unbound
  obtain ⟨-, hcontained, -, -⟩ := evaluate_without_record hlib s contained
  obtain ⟨-, -, hclock, -⟩ := evaluate_without_record hlib s clock
  rw [hdecided] at hsupplied
  rw [hunbound] at hfails
  refine ⟨hlib, fun record => ?_, fun record => ?_, hopen.mp rfl, hcontained.mp rfl, hclock rfl⟩
  · exact ((hsupplied record).resolve_left nofun).symm
  · exact ((hfails record).resolve_left nofun).symm

end Expr
end Listing
