import Mathlib.Data.List.Forall2
import Listing.Proofs.Compile.Derivation
import Listing.Proofs.Expr.Context
import Listing.Proofs.Meaning.Evaluation

/-! # Replacement of parts

  Two expressions that the compiler does the same with may stand for
  each other in any context, and the whole compiles to the same or
  fails in the same way. Replacements differ in which failures they may
  change. One that may change none keeps the outcome as it is, another
  may do something else where a closed part has no value, and one that
  may change all of them still keeps every result.
-/

namespace Listing

/-! ### The same outcome -/

/-- The failures differ at most in the expression that they quote. -/
inductive CompileError.Agrees : CompileError → CompileError → Prop
  | refl (e : CompileError) : Agrees e e
  /-- A closed part has no value, and for the same reason. -/
  | failedEvaluation (a b : Expr) (cause : EvalError) :
      Agrees (.failedEvaluation a cause) (.failedEvaluation b cause)
  /-- The expression as such has no counterpart in a filter. -/
  | expression (a b : Expr) (subject : Subject) :
      Agrees (.unsupported (.expression a) subject) (.unsupported (.expression b) subject)

/-- Both computations have the same result, or fail in the same way. -/
inductive SameOutcome {α : Type} : Except CompileError α → Except CompileError α → Prop
  | ok (a : α) : SameOutcome (.ok a) (.ok a)
  | error {e e' : CompileError} (h : e.Agrees e') : SameOutcome (.error e) (.error e')

/-- A closed part without a value is reported. -/
def CompileError.IsMissingValue (err : CompileError) : Prop :=
  ∃ e cause, err = .failedEvaluation e cause

/-- Both computations have the same outcome, unless the first fails in one of the ways `P`, which
need not persist. -/
def Persists {α : Type} (P : CompileError → Prop) (x y : Except CompileError α) : Prop :=
  SameOutcome x y ∨ ∃ err, x = .error err ∧ P err

/-- Closed parts without a value are among the failures `P`. -/
def CoversMissingValues (P : CompileError → Prop) : Prop :=
  ∀ err : CompileError, err.IsMissingValue → P err

namespace Persists

variable {α β : Type} {P : CompileError → Prop}

theorem refl (x : Except CompileError α) : Persists P x x := by
  cases x with
  | error e => exact .inl (.error (.refl e))
  | ok a => exact .inl (.ok a)

/-- What follows keeps the outcome, and it keeps a failure that need not persist. -/
theorem bind {x y : Except CompileError α} {f g : α → Except CompileError β}
    (h : Persists P x y) (hf : ∀ a, Persists P (f a) (g a)) : Persists P (x >>= f) (y >>= g) := by
  rcases h with hsame | ⟨err, rfl, herr⟩
  · cases hsame with
    | ok a => exact hf a
    | error h => exact .inl (.error h)
  · exact .inr ⟨err, rfl, herr⟩

theorem sameOutcome_of_strict {x y : Except CompileError α} (h : Persists (fun _ => False) x y) :
    SameOutcome x y := h.resolve_right fun ⟨_, _, hfalse⟩ => hfalse

/-- A result persists whatever may become of failures. -/
theorem eq_ok {x y : Except CompileError α} {a : α} (h : Persists P x y) (hx : x = .ok a) :
    y = .ok a := by
  rcases h with hsame | ⟨err, herror, -⟩
  · subst hx
    cases hsame
    rfl
  · cases hx.symm.trans herror

/-- If no failure has to persist, it is enough to look at results. -/
theorem of_ok {x y : Except CompileError α} (h : ∀ a, x = .ok a → y = .ok a) :
    Persists (fun _ => True) x y := by
  cases x with
  | error err => exact .inr ⟨err, rfl, trivial⟩
  | ok a =>
    rw [h a rfl]
    exact .refl _

theorem value {c : Compiler} {a b : Expr}
    (h : Tracks (CoversMissingValues P) (a.evaluate c.library c.scope)
      (b.evaluate c.library c.scope)) :
    Persists P (c.value a) (c.value b) := by
  unfold Compiler.value
  rcases h with heq | ⟨hcovers, cause, herror⟩
  · rw [heq]
    split
    · exact .refl _
    · exact .inl (.error (.failedEvaluation a b _))
  · rw [herror]
    exact .inr ⟨_, rfl, hcovers _ ⟨a, cause, rfl⟩⟩

/-- A method may fail before it comes to its argument, and then the argument does not matter. -/
theorem method (m : TextMethod) (name : String) (negated : Bool) (l : Operand)
    {x y : Except CompileError Operand} (h : Persists P x y) :
    Persists P (Compiler.method m name negated l x)
      (Compiler.method m name negated l y) := by
  unfold Compiler.method
  split
  · exact h.bind fun _ => .refl _
  · exact .refl _

theorem membership (negated : Bool) (items : Value) {x y : Except CompileError Operand}
    (h : Persists P x y) :
    Persists P (Compiler.membership negated items x)
      (Compiler.membership negated items y) := by
  unfold Compiler.membership
  split
  · exact h.bind fun _ => .refl _
  · exact .refl _

end Persists

namespace Compiler

variable {c : Compiler} {P : CompileError → Prop}

/-! ### Replaceable expressions -/

/-- The compiler does the same with the second expression as with the first, whatever they are
parts of; it may do something else where the first fails in one of the ways `P`. -/
structure Replaceable (c : Compiler) (P : CompileError → Prop) (a b : Expr) : Prop where
  isClosed : a.isClosed = b.isClosed
  evaluate : Tracks (CoversMissingValues P) (a.evaluate c.library c.scope)
    (b.evaluate c.library c.scope)
  /-- As chains of members they have the same text. -/
  chainText : a.chainText? = b.chainText?
  operand : ∀ negated, Persists P (c.operand a negated) (c.operand b negated)

namespace Replaceable

variable {a b a' b' : Expr} {as bs : List Expr}

theorem refl (a : Expr) : c.Replaceable P a a := ⟨rfl, .refl _, rfl, fun _ => .refl _⟩

/-- If no failure may change, the values are the same. -/
theorem evaluate_eq (h : c.Replaceable (fun _ => False) a b) :
    a.evaluate c.library c.scope = b.evaluate c.library c.scope :=
  Or.resolve_right h.evaluate fun ⟨hcovers, _⟩ => hcovers _ ⟨.parameter, .divisionByZero, rfl⟩

/-- Of closed expressions the compiler takes the value, so the operands are left to compare
where the parameter occurs. -/
theorem of_operand (hclosed : a.isClosed = b.isClosed)
    (hvalue : Tracks (CoversMissingValues P) (a.evaluate c.library c.scope)
      (b.evaluate c.library c.scope))
    (htext : a.chainText? = b.chainText?)
    (hopen : ¬a.isClosed = true → ¬b.isClosed = true → ∀ negated,
      Persists P (c.operand a negated) (c.operand b negated)) :
    c.Replaceable P a b := by
  refine ⟨hclosed, hvalue, htext, ?_⟩
  intro negated
  by_cases ha : a.isClosed = true
  · have hb : b.isClosed = true := hclosed ▸ ha
    rw [operand_of_isClosed ha, operand_of_isClosed hb]
    exact (Persists.value hvalue).bind fun _ => .refl _
  · exact hopen ha (hclosed ▸ ha) negated

/-- For closed expressions it is enough that their values are related. -/
theorem of_isClosed (ha : a.isClosed = true) (hb : b.isClosed = true)
    (hvalue : Tracks (CoversMissingValues P) (a.evaluate c.library c.scope)
      (b.evaluate c.library c.scope)) :
    c.Replaceable P a b := by
  have hclosed : a.isClosed = b.isClosed := ha.trans hb.symm
  have htext : a.chainText? = b.chainText? := by
    rw [Expr.chainText?, Expr.chainText?, Expr.memberNames_of_isClosed ha,
      Expr.memberNames_of_isClosed hb]
  exact of_operand hclosed hvalue htext fun hopen => absurd ha hopen

/-- If failures may change, it is enough to look at values and results. -/
theorem of_results (hclosed : a.isClosed = b.isClosed) (htext : a.chainText? = b.chainText?)
    (hvalue : ∀ v, a.evaluate c.library c.scope = .ok v → b.evaluate c.library c.scope = .ok v)
    (hopen : ¬a.isClosed = true → ¬b.isClosed = true → ∀ negated o,
      c.operand a negated = .ok o → c.operand b negated = .ok o) :
    c.Replaceable (fun _ => True) a b := by
  refine of_operand hclosed ?_ htext fun ha hb negated => .of_ok (hopen ha hb negated)
  cases ha : a.evaluate c.library c.scope with
  | error cause => exact .inr ⟨fun _ _ => trivial, cause, rfl⟩
  | ok v => exact .inl (hvalue v ha).symm

/-! ### One node around

    Nodes around replaceable expressions are replaceable again. The
    other parts of such a node are replaceable by themselves. -/

theorem member (h : c.Replaceable P a b) (name : String) :
    c.Replaceable P (.member a name) (.member b name) := by
  have hvalue : Tracks (CoversMissingValues P) ((Expr.member a name).evaluate c.library c.scope)
      ((Expr.member b name).evaluate c.library c.scope) := by
    rw [Expr.evaluate, Expr.evaluate]
    exact h.evaluate.bind fun _ => .refl _
  have htext : (Expr.member a name).chainText? = (Expr.member b name).chainText? := by
    rw [Expr.chainText?_member, Expr.chainText?_member, h.chainText]
  refine of_operand h.isClosed hvalue htext ?_
  intro ha hb negated
  rw [operand.eq_def, operand.eq_def c (.member b name), if_neg ha, if_neg hb]
  show Persists P (c.field _ negated) (c.field _ negated)
  unfold field
  rw [Expr.fieldPath?_eq_join, Expr.fieldPath?_eq_join, htext]
  split
  -- Only where there is no path does the failure quote the expression.
  · exact .inl (.error (.expression _ _ _))
  · exact .refl _

theorem unary (h : c.Replaceable P a b) (op : UnaryOp) :
    c.Replaceable P (.unary op a) (.unary op b) := by
  have hvalue : Tracks (CoversMissingValues P) ((Expr.unary op a).evaluate c.library c.scope)
      ((Expr.unary op b).evaluate c.library c.scope) := by
    rw [Expr.evaluate, Expr.evaluate]
    exact h.evaluate.bind fun _ => .refl _
  refine of_operand h.isClosed hvalue rfl ?_
  intro ha hb negated
  rw [operand.eq_def, operand.eq_def c (.unary op b), if_neg ha, if_neg hb]
  cases op with
  | not => exact h.operand (!negated)
  | negate => exact .refl _

theorem binary (hleft : c.Replaceable P a b) (hright : c.Replaceable P a' b')
    (op : BinaryOp) : c.Replaceable P (.binary a op a') (.binary b op b') := by
  have hclosed : (Expr.binary a op a').isClosed = (Expr.binary b op b').isClosed := by
    rw [Expr.isClosed, Expr.isClosed, hleft.isClosed, hright.isClosed]
  have hvalue : Tracks (CoversMissingValues P) ((Expr.binary a op a').evaluate c.library c.scope)
      ((Expr.binary b op b').evaluate c.library c.scope) := by
    cases op with
    | logic op =>
      rw [Expr.evaluate, Expr.evaluate]
      refine hleft.evaluate.bind fun v => (Tracks.refl _).bind fun l => ?_
      split
      -- Where the left side decides the operator, the right side is not evaluated.
      · exact .refl _
      · exact hright.evaluate.bind fun _ => .refl _
    | arith op | compare op =>
      rw [Expr.evaluate, Expr.evaluate]
      exact hleft.evaluate.bind fun _ => hright.evaluate.bind fun _ => .refl _
  refine of_operand hclosed hvalue rfl ?_
  intro ha hb negated
  rw [operand.eq_def, operand.eq_def c (.binary b op b'), if_neg ha, if_neg hb]
  cases op with
  | arith op => exact .refl _
  | compare op =>
    exact (hleft.operand false).bind fun _ => (hright.operand false).bind fun _ => .refl _
  | logic op =>
    cases negated with
    | true => exact .refl _
    | false =>
      -- The left operand has to be a condition before the right one is looked at.
      exact (hleft.operand false).bind fun _ => (Persists.refl _).bind fun _ =>
        (hright.operand false).bind fun _ => .refl _

/-! ### Lists of parts -/

theorem allClosed_eq (h : List.Forall₂ (c.Replaceable P) as bs) :
    Expr.allClosed as = Expr.allClosed bs := by
  induction h with
  | nil => rfl
  | cons h _ ih => rw [Expr.allClosed, Expr.allClosed, h.isClosed, ih]

theorem tracks_evaluateAll (h : List.Forall₂ (c.Replaceable P) as bs) :
    Tracks (CoversMissingValues P) (Expr.evaluateAll c.library c.scope as)
      (Expr.evaluateAll c.library c.scope bs) := by
  induction h with
  | nil => exact .refl _
  | cons h _ ih =>
    rw [Expr.evaluateAll, Expr.evaluateAll]
    exact h.evaluate.bind fun _ => ih.bind fun _ => .refl _

/-- One part of a list is replaced. -/
theorem among (h : c.Replaceable P a b) (before after : List Expr) :
    List.Forall₂ (c.Replaceable P) (before ++ a :: after) (before ++ b :: after) := by
  induction before with
  | nil => exact .cons h (List.forall₂_same.mpr fun e _ => refl e)
  | cons e _ ih => exact .cons (refl e) ih

theorem call (h : List.Forall₂ (c.Replaceable P) as bs) (function : String) :
    c.Replaceable P (.call function as) (.call function bs) := by
  have hvalue : Tracks (CoversMissingValues P) ((Expr.call function as).evaluate c.library c.scope)
      ((Expr.call function bs).evaluate c.library c.scope) := by
    rw [Expr.evaluate, Expr.evaluate]
    exact (tracks_evaluateAll h).bind fun _ => .refl _
  refine of_operand (allClosed_eq h) hvalue rfl ?_
  intro ha hb negated
  rw [operand.eq_def, operand.eq_def c (.call function bs), if_neg ha, if_neg hb]
  exact .refl _

theorem list (h : List.Forall₂ (c.Replaceable P) as bs) :
    c.Replaceable P (.list as) (.list bs) := by
  have hvalue : Tracks (CoversMissingValues P) ((Expr.list as).evaluate c.library c.scope)
      ((Expr.list bs).evaluate c.library c.scope) := by
    rw [Expr.evaluate, Expr.evaluate]
    exact (tracks_evaluateAll h).bind fun _ => .refl _
  refine of_operand (allClosed_eq h) hvalue rfl ?_
  intro ha hb negated
  rw [operand.eq_def, operand.eq_def c (.list bs), if_neg ha, if_neg hb]
  exact .refl _

theorem method (htarget : c.Replaceable P a b)
    (h : List.Forall₂ (c.Replaceable P) as bs) (function : String) :
    c.Replaceable P (.method a function as) (.method b function bs) := by
  have hclosed : (Expr.method a function as).isClosed = (Expr.method b function bs).isClosed := by
    rw [Expr.isClosed, Expr.isClosed, htarget.isClosed, allClosed_eq h]
  have hvalue : Tracks (CoversMissingValues P)
      ((Expr.method a function as).evaluate c.library c.scope)
      ((Expr.method b function bs).evaluate c.library c.scope) := by
    rw [Expr.evaluate, Expr.evaluate]
    exact htarget.evaluate.bind fun _ => (tracks_evaluateAll h).bind fun _ => .refl _
  refine of_operand hclosed hvalue rfl ?_
  intro ha hb negated
  rw [operand.eq_def, operand.eq_def c (.method b function bs), if_neg ha, if_neg hb]
  rcases h with _ | ⟨harg, _ | ⟨_, hmore⟩⟩
  · exact .refl _
  · dsimp only
    rw [htarget.isClosed]
    split
    · exact .refl _
    · split
      -- A closed target is evaluated to a list of items, an open one has to be a field.
      · split
        · exact (Persists.value htarget.evaluate).bind fun items =>
            .membership negated items (harg.operand false)
        · exact .refl _
      · exact (htarget.operand false).bind fun l => .method _ _ negated l (harg.operand false)
  · -- Of several arguments only the number is looked at.
    simp only [List.length_cons, hmore.length_eq]
    exact .refl _

/-! ### Any surroundings -/

theorem frame (h : c.Replaceable P a b) (frame : Expr.Frame) :
    c.Replaceable P (frame.fill a) (frame.fill b) := by
  cases frame with
  | member name => exact h.member name
  | argument function before after => exact call (h.among before after) function
  | receiver function args =>
    exact h.method (List.forall₂_same.mpr fun e _ => refl e) function
  | methodArgument target function before after =>
    exact (refl target).method (h.among before after) function
  | item before after => exact list (h.among before after)
  | leftOperand op right => exact h.binary (refl right) op
  | rightOperand left op => exact (refl left).binary h op
  | unary op => exact h.unary op

theorem fill (h : c.Replaceable P a b) (k : Expr.Context) :
    c.Replaceable P (k.fill a) (k.fill b) := by
  induction k generalizing a b with
  | nil => exact h
  | cons frame outer ih => exact ih (h.frame frame)

theorem compile (h : c.Replaceable P a b) (parameter : String) :
    Persists P (c.compile ⟨parameter, a⟩) (c.compile ⟨parameter, b⟩) :=
  (h.operand false).bind fun _ => .refl _

end Replaceable
end Compiler
end Listing
