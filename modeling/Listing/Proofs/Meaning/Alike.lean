import Mathlib.Data.List.Forall2
import Listing.Proofs.Compile.Derivation
import Listing.Proofs.Library.Builtin

/-! # Types of values under evaluation

  The type of a value does not depend on the values that it is computed
  from, but on their types alone. With other captured variables of the
  same types a closed expression may lose its value, by an overflow for
  example, or gain one; where it has a value both times, the two are
  alike.
-/

namespace Listing

/-! ### Values that are alike -/

/-- The values are of one type; lists have as many items, which are alike one by one. -/
inductive Value.Alike : Value → Value → Prop
  | plain {v w : Value} (htype : v.type = w.type) (hlist : v.type ≠ .list) : Alike v w
  | list {as bs : List Value} (h : List.Forall₂ Alike as bs) : Alike (.list as) (.list bs)

namespace Value.Alike

theorem refl : ∀ v : Value, v.Alike v
  | .list items => .list (List.forall₂_same.mpr fun v _ => refl v)
  | .boolean _ | .int _ | .string _ | .timestamp _ | .duration _ | .status _ | .bytes _ =>
    .plain rfl nofun

theorem type_eq {v w : Value} (h : v.Alike w) : v.type = w.type := by
  cases h with
  | plain htype _ => exact htype
  | list _ => rfl

/-- What is alike to a list is a list of items that are alike. -/
theorem of_list {items : List Value} {w : Value} (h : (Value.list items).Alike w) :
    ∃ items', w = .list items' ∧ List.Forall₂ Alike items items' := by
  cases h with
  | plain _ hlist => exact absurd rfl hlist
  | list h => exact ⟨_, rfl, h⟩

end Value.Alike

/-! ### Results of a known type -/

/-- A result of the computation is of the type. -/
def HasType {ε : Type} (type : TypeTag) (x : Except ε Value) : Prop :=
  ∀ v, x = .ok v → v.type = type

theorem hasType_ok {ε : Type} {v : Value} : HasType v.type (.ok v : Except ε Value) := by
  rintro _ ⟨⟩
  rfl

theorem hasType_error {ε : Type} {type : TypeTag} (e : ε) : HasType type (.error e) := nofun

theorem HasType.ite {ε : Type} {type : TypeTag} {p : Prop} [Decidable p] {x y : Except ε Value}
    (hx : HasType type x) (hy : HasType type y) : HasType type (if p then x else y) := by
  split
  · exact hx
  · exact hy

/-- The type of a computed value is the type of the last step. -/
theorem HasType.bind {ε α : Type} {type : TypeTag} {x : Except ε α} {f : α → Except ε Value}
    (h : ∀ a, HasType type (f a)) : HasType type (x >>= f) := by
  intro v hv
  obtain ⟨a, -, ha⟩ := bind_eq_ok.mp hv
  exact h a v ha

/-- Where both computations have results, these are related. -/
def Related {ε α β : Type} (R : α → β → Prop) (x : Except ε α) (y : Except ε β) : Prop :=
  ∀ a b, x = .ok a → y = .ok b → R a b

namespace Related

variable {ε α β γ δ : Type}

theorem ok {R : α → β → Prop} {a : α} {b : β} (h : R a b) :
    Related R (.ok a : Except ε α) (.ok b) := by
  rintro _ _ ⟨⟩ ⟨⟩
  exact h

theorem bind {R : α → β → Prop} {S : γ → δ → Prop} {x : Except ε α} {y : Except ε β}
    {f : α → Except ε γ} {g : β → Except ε δ} (h : Related R x y)
    (hfg : ∀ a b, R a b → Related S (f a) (g b)) : Related S (x >>= f) (y >>= g) := by
  intro c d hc hd
  obtain ⟨a, ha, hc⟩ := bind_eq_ok.mp hc
  obtain ⟨b, hb, hd⟩ := bind_eq_ok.mp hd
  exact hfg a b (h a b ha hb) c d hc hd

/-- Results of one type are alike, if they are no lists. -/
theorem of_hasType {type : TypeTag} {x y : Except ε Value} (hlist : type ≠ .list)
    (hx : HasType type x) (hy : HasType type y) : Related Value.Alike x y := by
  intro v w hv hw
  have htype : v.type = type := hx v hv
  exact .plain (htype.trans (hy w hw).symm) (htype ▸ hlist)

end Related

/-! ### Operators and members -/

/-- The type of what an arithmetic operator makes of operands that it takes. -/
def ArithOp.resultType : ArithOp → TypeTag → TypeTag → TypeTag
  | _, .int, .int => .int
  | _, .string, .string => .string
  | .sub, .timestamp, .timestamp => .duration
  | _, .duration, .duration => .duration
  | _, _, _ => .timestamp

theorem ArithOp.resultType_ne_list (op : ArithOp) (l r : TypeTag) :
    op.resultType l r ≠ .list := by
  unfold resultType
  split <;> decide

namespace Value

theorem hasType_orOverflow {α : Type} {type : TypeTag} {build : α → Value}
    (hbuild : ∀ a, (build a).type = type) (operation : String) (a? : Option α) :
    HasType type (orOverflow operation (a?.map build)) := by
  cases a? with
  | none => exact hasType_error _
  | some a => exact hbuild a ▸ hasType_ok

theorem hasType_intArith (op : ArithOp) (a b : Int64) : HasType .int (intArith op a b) := by
  have hint : ∀ n : Int64, (Value.int n).type = .int := fun _ => rfl
  cases op with
  | add | sub | mul => exact hasType_orOverflow hint _ _
  | div | mod =>
    exact (hasType_error _).ite (hasType_orOverflow hint _ _)

theorem hasType_arith (op : ArithOp) (l r : Value) :
    HasType (op.resultType l.type r.type) (arith op l r) := by
  -- Where a rule applies, the type of the result is that of its constructor.
  have htimestamp : ∀ t, (Value.timestamp t).type = .timestamp := fun _ => rfl
  have hduration : ∀ d, (Value.duration d).type = .duration := fun _ => rfl
  unfold arith
  split
  · exact hasType_intArith _ _ _
  · exact hasType_ok
  · exact hasType_ok
  · exact hasType_orOverflow htimestamp _ _
  · exact hasType_orOverflow htimestamp _ _
  · exact hasType_error _
  · exact hasType_orOverflow htimestamp _ _
  · exact hasType_orOverflow hduration _ _
  · exact hasType_orOverflow hduration _ _
  · exact hasType_error _
  · exact hasType_error _

theorem hasType_equality (c : Comparison) (l r : Value) : HasType .boolean (equality c l r) := by
  unfold equality
  split
  · exact hasType_ok
  · exact hasType_ok
  · exact hasType_error _

theorem hasType_compareBy (c : Comparison) (l r : Value) :
    HasType .boolean (compareBy c l r) := by
  unfold compareBy
  split
  · exact hasType_ok
  · exact hasType_ok
  · exact hasType_ok
  · exact hasType_ok
  · exact hasType_error _
  · exact hasType_equality c _ _
  · exact hasType_equality c _ _
  · exact hasType_equality c _ _
  · exact hasType_equality c _ _
  · exact hasType_error _

/-- An operator in front of a value keeps its type, and is for single values. -/
theorem type_of_applyUnary {op : UnaryOp} {v w : Value} (h : applyUnary op v = .ok w) :
    w.type = v.type ∧ v.type ≠ .list := by
  unfold applyUnary at h
  split at h
  · cases h
    exact ⟨rfl, nofun⟩
  · have hint : ∀ n : Int64, (Value.int n).type = .int := fun _ => rfl
    exact ⟨hasType_orOverflow hint _ _ w h, nofun⟩
  · cases h
    exact ⟨rfl, nofun⟩
  · cases h

theorem hasType_member (v : Value) (name : String) : HasType .int (v.member name) := by
  have hint (n : Int) : HasType .int (member.int n) := hasType_ok (v := .int (.ofInt n))
  have hmissing (v : Value) : HasType .int (member.missing v name) := hasType_error _
  unfold member
  split
  · exact (hint _).ite (hmissing _)
  · exact (hint _).ite (hmissing _)
  · exact (hint _).ite (hmissing _)
  · exact (hint _).ite (hmissing _)
  · exact (hint _).ite ((hint _).ite ((hint _).ite (hmissing _)))
  · exact hmissing _

end Value

/-! ### Closed expressions -/

/-- Both scopes have the same variables, and these have values that are alike. -/
def Scope.Alike (s t : Scope) : Prop :=
  ∀ name, Option.Rel Value.Alike (s.captured.get? name) (t.captured.get? name)

namespace Expr

variable {s t : Scope}

theorem related_evaluateAll {lib : Library} {es : List Expr}
    (h : ∀ e ∈ es, Related Value.Alike (e.evaluate lib s) (e.evaluate lib t)) :
    Related (List.Forall₂ Value.Alike) (evaluateAll lib s es) (evaluateAll lib t es) := by
  induction es with
  | nil => exact .ok .nil
  | cons e es ih =>
    obtain ⟨he, hes⟩ := List.forall_mem_cons.mp h
    rw [evaluateAll, evaluateAll]
    exact he.bind fun _ _ hv => (ih hes).bind fun _ _ hvs => .ok (.cons hv hvs)

theorem hasType_logic {lib : Library} (left right : Expr) (op : Connective) :
    HasType .boolean ((Expr.binary left (.logic op) right).evaluate lib s) := by
  rw [evaluate]
  refine .bind fun v => .bind fun l => .ite (hasType_ok (v := .boolean l)) ?_
  exact .bind fun w => .bind fun r => hasType_ok (v := .boolean r)

/-- An expression that has values in both scopes has values that are alike. -/
theorem related_evaluate (h : s.Alike t) (e : Expr) :
    Related Value.Alike (e.evaluate .builtin s) (e.evaluate .builtin t) := by
  induction e using parts_induction with | node e ih
  cases e with
  | parameter => exact nofun
  | constant v => exact .ok (.refl v)
  | captured name =>
    have hbound := h name
    rw [evaluate, evaluate]
    generalize s.captured.get? name = v?, t.captured.get? name = w? at hbound
    cases hbound with
    | none => exact nofun
    | some hv => exact .ok hv
  | member target name =>
    rw [evaluate, evaluate]
    exact .of_hasType (by decide) (.bind fun v => v.hasType_member name)
      (.bind fun v => v.hasType_member name)
  | call function args =>
    rw [evaluate, evaluate]
    obtain ⟨type, hlist, hcall⟩ := Library.type_of_call_builtin function
    exact .of_hasType hlist (.bind fun vs => hcall s vs) (.bind fun vs => hcall t vs)
  | method target function args =>
    rw [evaluate, evaluate]
    obtain ⟨type, hlist, hcall⟩ := Library.type_of_call_builtin function
    exact .of_hasType hlist (.bind fun v => .bind fun vs => hcall s (v :: vs))
      (.bind fun v => .bind fun vs => hcall t (v :: vs))
  | list items =>
    rw [evaluate, evaluate]
    exact (related_evaluateAll ih).bind fun _ _ hvs => .ok (.list hvs)
  | binary left op right =>
    cases op with
    | logic op =>
      exact .of_hasType (by decide) (hasType_logic left right op) (hasType_logic left right op)
    | compare op =>
      rw [evaluate, evaluate]
      exact .of_hasType (by decide) (.bind fun l => .bind fun r => l.hasType_compareBy op r)
        (.bind fun l => .bind fun r => l.hasType_compareBy op r)
    | arith op =>
      -- The one operator whose result depends on the types of both operands.
      rw [evaluate, evaluate]
      refine (ih left List.mem_cons_self).bind fun l l' hl => ?_
      refine (ih right (List.mem_cons_of_mem _ List.mem_cons_self)).bind fun r r' hr => ?_
      refine .of_hasType (op.resultType_ne_list l.type r.type) (l.hasType_arith op r) ?_
      rw [hl.type_eq, hr.type_eq]
      exact l'.hasType_arith op r'
  | unary op operand =>
    rw [evaluate, evaluate]
    refine (ih operand List.mem_cons_self).bind fun v v' hv => ?_
    intro w w' hw hw'
    obtain ⟨htype, hlist⟩ := Value.type_of_applyUnary hw
    obtain ⟨htype', -⟩ := Value.type_of_applyUnary hw'
    exact .plain (htype.trans (hv.type_eq.trans htype'.symm)) (htype ▸ hlist)

end Expr
end Listing
