import Listing.Proofs.Compile.Derivation

/-! # Failures of operands

  `Compiler.operand` fails for one of three reasons: a closed part has
  no value, a chain of members names no field, or a construct has no
  counterpart in a filter. `Culprit` lists them, one constructor each,
  with the part of the predicate that is to blame. So no failure is
  passed on under another name on its way up, and none is a fault of
  the compiler.
-/

namespace Listing

/-! ### Ways to fail -/

/-- The computation fails in no other way than one of `P`. -/
def FailsAs {α : Type} (P : CompileError → Prop) (x : Except CompileError α) : Prop :=
  ∀ err, x = .error err → P err

namespace FailsAs

variable {α β : Type} {P Q : CompileError → Prop}

theorem ok (a : α) : FailsAs P (.ok a : Except CompileError α) := nofun

theorem error {err : CompileError} (h : P err) :
    FailsAs P (.error err : Except CompileError α) := by
  rintro _ ⟨⟩
  exact h

theorem mono {x : Except CompileError α} (h : FailsAs P x) (hPQ : ∀ err, P err → Q err) :
    FailsAs Q x := by
  intro err herr
  exact hPQ err (h err herr)

theorem bind {x : Except CompileError α} {f : α → Except CompileError β} (hx : FailsAs P x)
    (hf : ∀ a, x = .ok a → FailsAs P (f a)) : FailsAs P (x >>= f) := by
  cases x with
  | error e =>
    apply error
    exact hx e rfl
  | ok a => exact hf a rfl

/-- A test that joins a field and a constant makes a clause. -/
theorem test {x : Except CompileError FieldTest} (hx : FailsAs P x) (g : FieldTest → β) :
    FailsAs P (do .ok (g (← x)) : Except CompileError β) :=
  hx.bind fun _ _ => .ok _

end FailsAs

/-! ### Constructs without a counterpart

    What joins finished operands looks at no part of the predicate, so
    it can blame nothing but the construct. -/

section

variable {P : CompileError → Prop} (hP : ∀ construct subject, P (.unsupported construct subject))

include hP

namespace Field

theorem failsAs_comparison (f : Field) (op : Comparison) (v : Value) :
    FailsAs P (f.comparison op v) := by
  unfold comparison
  split
  · exact .ok _
  · exact .error (hP _ _)

theorem failsAs_arrayContains (f : Field) (v : Value) (negated : Bool) :
    FailsAs P (f.arrayContains v negated) := by
  unfold arrayContains
  split
  · exact .ok _
  · exact .error (hP _ _)

theorem failsAs_textMethod (f : Field) (m : TextMethod) (v : Value) (negated : Bool) :
    FailsAs P (f.textMethod m v negated) := by
  unfold textMethod
  split
  · exact .error (hP _ _)
  · split
    · exact .ok _
    · exact .error (hP _ _)
    · exact .error (hP _ _)

end Field

namespace Compiler

theorem failsAs_condition (construct : Construct) (o : Operand) :
    FailsAs P (condition construct o) := by
  unfold condition
  split
  · exact .ok _
  · exact .ok _
  · split
    · exact (Field.failsAs_comparison hP _ _ _).test _
    · exact .error (hP _ _)
  · exact .error (hP _ _)

theorem failsAs_comparison (op : Comparison) (l r : Operand) : FailsAs P (comparison op l r) := by
  unfold comparison
  split
  · exact (Field.failsAs_comparison hP _ _ _).test _
  · exact (Field.failsAs_comparison hP _ _ _).test _
  · exact .error (hP _ _)

theorem failsAs_method (m : TextMethod) (name : String) (negated : Bool) (l : Operand)
    {arg : Except CompileError Operand} (harg : FailsAs P arg) :
    FailsAs P (method m name negated l arg) := by
  unfold method
  split
  · refine harg.bind ?_
    intro o _
    split
    · split
      · exact (Field.failsAs_arrayContains hP _ _ _).test _
      · exact (Field.failsAs_textMethod hP _ _ _ _).test _
    · exact .error (hP _ _)
  · exact .error (hP _ _)

theorem failsAs_addItem (f : Field) (negated : Bool) (a : Clause) (item : Value) :
    FailsAs P (addItem f negated a item) := by
  unfold addItem
  split
  · exact (Field.failsAs_comparison hP _ _ _).test _
  · exact (Field.failsAs_comparison hP _ _ _).test _

theorem failsAs_foldlM_addItem (f : Field) (negated : Bool) (items : List Value) (a : Clause) :
    FailsAs P (items.foldlM (addItem f negated) a) := by
  induction items generalizing a with
  | nil => exact .ok a
  | cons item items ih =>
    rw [List.foldlM_cons]
    exact (failsAs_addItem hP f negated a item).bind fun b _ => ih b

theorem failsAs_membership (negated : Bool) (v : Value) {arg : Except CompileError Operand}
    (harg : FailsAs P arg) : FailsAs P (membership negated v arg) := by
  unfold membership
  split
  · refine harg.bind ?_
    intro o _
    split
    · exact (failsAs_foldlM_addItem hP _ _ _ _).bind fun _ _ => .ok _
    · exact .error (hP _ _)
  · exact .error (hP _ _)

end Compiler

end

namespace Compiler

/-! ### Culprits -/

/-- What the failure says is wrong with the body, and the part that it blames is there. -/
inductive Culprit (c : Compiler) (body : Expr) : CompileError → Prop
  /-- A closed part has no value, for the cause that is reported. -/
  | noValue {e : Expr} {cause : EvalError} (hoccurs : e.Occurs body) (hclosed : e.isClosed = true)
      (hcause : e.evaluate c.library c.scope = .error cause) :
      Culprit c body (.failedEvaluation e cause)
  /-- A construct has no counterpart in a filter. -/
  | noCounterpart (construct : Construct) (subject : Subject) :
      Culprit c body (.unsupported construct subject)
  /-- A chain of members names no field of the catalog. -/
  | noField {names : List String} (hne : names ≠ []) (hoccurs : (Expr.chain names).Occurs body)
      (hlookup : c.catalog.lookup (".".intercalate names) = none) :
      Culprit c body (.unknownField c.catalog.entity (".".intercalate names))

variable {c : Compiler}

/-- What is to blame in a part is to blame in the whole. -/
theorem failsAs_part {α : Type} {x : Except CompileError α} {part whole : Expr}
    (hpart : part ∈ whole.parts) (h : FailsAs (c.Culprit part) x) :
    FailsAs (c.Culprit whole) x := by
  refine h.mono ?_
  intro err herr
  cases herr with
  | noValue hoccurs hclosed hcause => exact .noValue (.inside hpart hoccurs) hclosed hcause
  | noCounterpart construct subject => exact .noCounterpart construct subject
  | noField hne hoccurs hlookup => exact .noField hne (.inside hpart hoccurs) hlookup

theorem failsAs_value {e : Expr} (hclosed : e.isClosed = true) :
    FailsAs (c.Culprit e) (c.value e) := by
  unfold value
  split
  · exact .ok _
  · next cause hcause => exact .error (.noValue .here hclosed hcause)

theorem failsAs_closed {e : Expr} (hclosed : e.isClosed = true) (negated : Bool) :
    FailsAs (c.Culprit e) (c.closed e negated) := by
  refine (failsAs_value hclosed).bind ?_
  intro v _
  split
  · exact .ok _
  · exact .ok _
  · exact .error (.noCounterpart _ _)

theorem failsAs_field (e : Expr) (negated : Bool) :
    FailsAs (c.Culprit e) (c.field e negated) := by
  unfold field
  split
  · exact .error (.noCounterpart _ _)
  · next path hpath =>
    obtain ⟨names, hne, rfl, rfl⟩ := Expr.fieldPath?_eq_some_iff.mp hpath
    split
    · next hlookup => exact .error (.noField hne .here hlookup)
    · split
      · split
        · exact (Field.failsAs_comparison .noCounterpart _ _ _).test _
        · exact .error (.noCounterpart _ _)
      · exact .ok _

/-- Every failure of an operand has a culprit in the expression. -/
theorem failsAs_operand (e : Expr) (negated : Bool) :
    FailsAs (c.Culprit e) (c.operand e negated) := by
  fun_induction operand c e negated with
  | case1 e negated hclosed => exact failsAs_closed hclosed negated
  | case2 negated target name => exact failsAs_field _ negated
  -- A part is blamed for what is wrong within it, and within the whole for the same.
  | case3 negated inner _ ih => exact failsAs_part List.mem_cons_self ih
  | case5 negated left op right _ _ ihleft ihright =>
    have hright : right ∈ (Expr.binary left (.logic op) right).parts :=
      List.mem_cons_of_mem _ List.mem_cons_self
    refine (failsAs_part List.mem_cons_self ihleft).bind ?_
    intro l _
    refine (failsAs_condition .noCounterpart _ l).bind ?_
    intro a _
    refine (failsAs_part hright ihright).bind ?_
    intro r _
    refine (failsAs_condition .noCounterpart _ r).bind ?_
    intro b _
    cases op with
    | and => exact .ok _
    | or => exact .ok _
  | case6 negated left op right _ ihleft ihright =>
    have hright : right ∈ (Expr.binary left (.compare op) right).parts :=
      List.mem_cons_of_mem _ List.mem_cons_self
    refine (failsAs_part List.mem_cons_self ihleft).bind ?_
    intro l _
    refine (failsAs_part hright ihright).bind ?_
    intro r _
    exact failsAs_comparison .noCounterpart _ l r
  | case9 negated target name arg hclosed _ _ ih =>
    have harg : arg ∈ (Expr.method target name [arg]).parts :=
      List.mem_cons_of_mem _ List.mem_cons_self
    refine (failsAs_part List.mem_cons_self (failsAs_value hclosed)).bind ?_
    intro v _
    exact failsAs_membership .noCounterpart negated v (failsAs_part harg ih)
  | case11 negated target name arg m _ _ _ ihtarget iharg =>
    have harg : arg ∈ (Expr.method target name [arg]).parts :=
      List.mem_cons_of_mem _ List.mem_cons_self
    refine (failsAs_part List.mem_cons_self ihtarget).bind ?_
    intro l _
    exact failsAs_method .noCounterpart m name negated l (failsAs_part harg iharg)
  -- A constant or a captured variable is closed, so the branch of the fault is never entered.
  | case17 negated v hopen => exact absurd rfl hopen
  | case18 negated name hopen => exact absurd rfl hopen
  | _ => exact .error (.noCounterpart _ _)

end Compiler
end Listing
