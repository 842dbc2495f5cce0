import Listing.Proofs.Compile.Outcome
import Listing.Proofs.Meaning.Alike

/-! # Support depends on types

  Whether a predicate has a filter is decided by the types of its
  closed parts and of the fields that it names. So of the captured
  variables only the types matter, and of lists the number and the
  types of their items. A predicate that compiles with some variables
  compiles with all that are alike, unless one of its closed parts loses
  its value.
-/

namespace Listing

/-! ### Tests -/

/-- Filters compare values of the type by the operator. -/
def TypeTag.hasComparison : TypeTag → Comparison → Bool
  | .bytes, _ | .list, _ | .array, _ => false
  | type, op => op.isEquality || type.isOrdered

theorem Value.type_eq_boolean_iff {v : Value} : v.type = .boolean ↔ ∃ b, v = .boolean b := by
  cases v <;> simp [type]

theorem Value.type_eq_string_iff {v : Value} : v.type = .string ↔ ∃ s, v = .string s := by
  cases v <;> simp [type]

namespace Field

variable {f : Field} {v w : Value} {negated : Bool}

theorem type_of_condition? {type : TypeTag} {op : Comparison} {condition : Condition}
    (h : condition? type op v = some condition) :
    v.type = type ∧ type.hasComparison op = true := by
  unfold condition? at h
  split at h
  · exact ⟨rfl, rfl⟩
  · exact ⟨rfl, rfl⟩
  · exact ⟨rfl, by cases op <;> rfl⟩
  · exact ⟨rfl, by cases op <;> rfl⟩
  · exact ⟨rfl, by cases op <;> rfl⟩
  · split at h
    · next hfamily => exact ⟨congrArg TypeTag.status hfamily, rfl⟩
    · cases h
  · split at h
    · next hfamily => exact ⟨congrArg TypeTag.status hfamily, rfl⟩
    · cases h
  · exact ⟨rfl, rfl⟩
  · exact ⟨rfl, rfl⟩
  · cases h

theorem exists_condition? {op : Comparison} (h : v.type.hasComparison op = true) :
    ∃ condition, condition? v.type op v = some condition := by
  cases v with
  | int n | timestamp t | duration d => exact ⟨_, rfl⟩
  | boolean b | string s => cases op <;> first | exact ⟨_, rfl⟩ | cases h
  | status s => cases op <;> first | exact ⟨_, if_pos rfl⟩ | cases h
  | bytes b | list items => cases h

/-- A comparison asks for the declared type and for an operator that the type has. -/
theorem exists_comparison_iff {op : Comparison} :
    (∃ t, f.comparison op v = .ok t) ↔ v.type = f.type ∧ f.type.hasComparison op = true := by
  constructor
  · rintro ⟨t, h⟩
    unfold comparison at h
    split at h
    · next condition hcondition => exact type_of_condition? hcondition
    · cases h
  · rintro ⟨htype, hop⟩
    rw [← htype] at hop
    obtain ⟨condition, hcondition⟩ := exists_condition? hop
    unfold comparison
    rw [← htype, hcondition]
    exact ⟨_, rfl⟩

/-- A method of texts asks for a text on either side and for an operator of the filter. -/
theorem exists_textMethod_iff {m : TextMethod} :
    (∃ t, f.textMethod m v negated = .ok t) ↔
      v.type = .string ∧ f.type = .string ∧ (m.operator? negated).isSome := by
  constructor
  · rintro ⟨t, h⟩
    unfold textMethod at h
    split at h
    · cases h
    · next op hop =>
      split at h
      · next hstring => exact ⟨rfl, hstring, Option.isSome_of_eq_some hop⟩
      · cases h
      · cases h
  · rintro ⟨hv, hf, hop⟩
    obtain ⟨s, rfl⟩ := Value.type_eq_string_iff.mp hv
    obtain ⟨op, hop⟩ := Option.isSome_iff_exists.mp hop
    unfold textMethod
    rw [hop, hf]
    exact ⟨_, rfl⟩

/-- The search of several texts asks for one. -/
theorem exists_arrayContains_iff :
    (∃ t, f.arrayContains v negated = .ok t) ↔ v.type = .string ∧ f.type = .array := by
  constructor
  · rintro ⟨t, h⟩
    unfold arrayContains at h
    split at h
    · next harray => exact ⟨rfl, harray⟩
    · cases h
  · rintro ⟨hv, hf⟩
    obtain ⟨s, rfl⟩ := Value.type_eq_string_iff.mp hv
    unfold arrayContains
    rw [hf]
    exact ⟨_, rfl⟩

end Field

namespace Compiler

/-! ### Two runs of the compiler

    The second run follows the first: where the first has a result the
    second has one too, or it stops for lack of a value. -/

/-- The compilers differ at most in the values of captured variables, which are alike, and in
the time. -/
structure Alike (c d : Compiler) : Prop where
  builtin : c.library = .builtin ∧ d.library = .builtin
  catalog : c.catalog = d.catalog
  scope : c.scope.Alike d.scope

/-- The failure is that of a closed part of the predicate without a value. -/
def StopsIn (d : Compiler) (body : Expr) (failure : CompileError) : Prop :=
  ∃ part cause, part.Occurs body ∧ part.isClosed = true ∧
    part.evaluate d.library d.scope = .error cause ∧ failure = .failedEvaluation part cause

/-- Where the first computation has a result, the second has a related one, or stops at a closed
part of the predicate. -/
def Follows {α β : Type} (d : Compiler) (body : Expr) (R : α → β → Prop)
    (x : Except CompileError α) (y : Except CompileError β) : Prop :=
  ∀ a, x = .ok a →
    (∃ b, y = .ok b ∧ R a b) ∨ ∃ failure, y = .error failure ∧ d.StopsIn body failure

/-- The operands are constants that are alike, the same field, or any two conditions. -/
inductive AlikeOperands : Operand → Operand → Prop
  | constant {v w : Value} (h : v.Alike w) : AlikeOperands (.constant v) (.constant w)
  | field (f : Field) : AlikeOperands (.field f) (.field f)
  | clause (a b : Clause) : AlikeOperands (.clause a) (.clause b)

theorem AlikeOperands.refl (o : Operand) : AlikeOperands o o := by
  cases o with
  | constant v => exact .constant (.refl v)
  | field f => exact .field f
  | clause a => exact .clause a a

/-- Nothing is asked of the results. -/
def Whatever {α β : Type} (_ : α) (_ : β) : Prop := True

variable {c d : Compiler} {body : Expr}

namespace Follows

variable {α β γ δ : Type} {R : α → β → Prop} {S : γ → δ → Prop}

theorem ok {a : α} {b : β} (h : R a b) : d.Follows body R (.ok a) (.ok b) := by
  rintro _ ⟨⟩
  exact .inl ⟨b, rfl, h⟩

theorem error (e : CompileError) (y : Except CompileError β) :
    d.Follows body R (.error e : Except CompileError α) y := nofun

/-- The two computations succeed together. -/
theorem of_exists {x : Except CompileError α} {y : Except CompileError β}
    (h : (∃ a, x = .ok a) → ∃ b, y = .ok b) : d.Follows body Whatever x y := by
  intro a ha
  obtain ⟨b, hb⟩ := h ⟨a, ha⟩
  exact .inl ⟨b, hb, trivial⟩

/-- What follows a failure for lack of a value is that failure. -/
theorem bind {x : Except CompileError α} {y : Except CompileError β}
    {f : α → Except CompileError γ} {g : β → Except CompileError δ} (h : d.Follows body R x y)
    (hfg : ∀ a b, R a b → d.Follows body S (f a) (g b)) :
    d.Follows body S (x >>= f) (y >>= g) := by
  intro c hc
  obtain ⟨a, ha, hc⟩ := bind_eq_ok.mp hc
  rcases h a ha with ⟨b, rfl, hab⟩ | ⟨failure, rfl, hstop⟩
  · exact hfg a b hab c hc
  · exact .inr ⟨failure, rfl, hstop⟩

end Follows

/-! ### Joining operands -/

theorem follows_fieldComparison (f : Field) (op : Comparison) {v w : Value} (h : v.Alike w) :
    d.Follows body Whatever (f.comparison op v) (f.comparison op w) := by
  refine .of_exists fun hv => ?_
  rw [Field.exists_comparison_iff] at hv ⊢
  rwa [← h.type_eq]

theorem follows_textMethod (f : Field) (m : TextMethod) (negated : Bool) {v w : Value}
    (h : v.Alike w) :
    d.Follows body Whatever (f.textMethod m v negated) (f.textMethod m w negated) := by
  refine .of_exists fun hv => ?_
  rw [Field.exists_textMethod_iff] at hv ⊢
  rwa [← h.type_eq]

theorem follows_arrayContains (f : Field) (negated : Bool) {v w : Value} (h : v.Alike w) :
    d.Follows body Whatever (f.arrayContains v negated) (f.arrayContains w negated) := by
  refine .of_exists fun hv => ?_
  rw [Field.exists_arrayContains_iff] at hv ⊢
  rwa [← h.type_eq]

theorem follows_condition (k : Construct) {o o' : Operand} (h : AlikeOperands o o') :
    d.Follows body Whatever (condition k o) (condition k o') := by
  cases h with
  | clause a b => exact .ok trivial
  | field f => exact .of_exists id
  | @constant v w h =>
    by_cases hv : v.type = .boolean
    · obtain ⟨b, rfl⟩ := Value.type_eq_boolean_iff.mp hv
      obtain ⟨b', rfl⟩ := Value.type_eq_boolean_iff.mp (h.type_eq ▸ hv)
      exact .ok trivial
    · cases v with
      | boolean b => exact absurd rfl hv
      | _ => exact .error _ _

theorem follows_comparison (op : Comparison) {l l' r r' : Operand} (hl : AlikeOperands l l')
    (hr : AlikeOperands r r') :
    d.Follows body AlikeOperands (comparison op l r) (comparison op l' r') := by
  cases hl with
  | clause a b => exact .error _ _
  | field f =>
    cases hr with
    | constant h => exact (follows_fieldComparison f op h).bind fun _ _ _ => .ok (.clause _ _)
    | field g => exact .error _ _
    | clause a b => exact .error _ _
  | constant h =>
    cases hr with
    | constant h' => exact .error _ _
    | field f =>
      exact (follows_fieldComparison f op.swap h).bind fun _ _ _ => .ok (.clause _ _)
    | clause a b => exact .error _ _

theorem follows_method (m : TextMethod) (name : String) (negated : Bool) {l l' : Operand}
    {x x' : Except CompileError Operand} (hl : AlikeOperands l l')
    (hx : d.Follows body AlikeOperands x x') :
    d.Follows body AlikeOperands (method m name negated l x) (method m name negated l' x') := by
  cases hl with
  | constant h => exact .error _ _
  | clause a b => exact .error _ _
  | field f =>
    refine hx.bind fun o o' ho => ?_
    cases ho with
    | field g => exact .error _ _
    | clause a b => exact .error _ _
    | constant h =>
      dsimp only
      split
      · exact (follows_arrayContains f negated h).bind fun _ _ _ => .ok (.clause _ _)
      · exact (follows_textMethod f m negated h).bind fun _ _ _ => .ok (.clause _ _)

theorem follows_addItem (f : Field) (negated : Bool) (a b : Clause) {v w : Value}
    (h : v.Alike w) : d.Follows body Whatever (addItem f negated a v) (addItem f negated b w) := by
  unfold addItem
  split
  · exact (follows_fieldComparison f .notEqual h).bind fun _ _ _ => .ok trivial
  · exact (follows_fieldComparison f .equal h).bind fun _ _ _ => .ok trivial

/-- Lists that are alike are as long, so that neither is done before the other. -/
theorem follows_foldlM_addItem (f : Field) (negated : Bool) {vs ws : List Value}
    (h : List.Forall₂ Value.Alike vs ws) (a b : Clause) :
    d.Follows body Whatever (vs.foldlM (addItem f negated) a)
      (ws.foldlM (addItem f negated) b) := by
  induction h generalizing a b with
  | nil => exact .ok trivial
  | cons h _ ih =>
    rw [List.foldlM_cons, List.foldlM_cons]
    exact (follows_addItem f negated a b h).bind fun a' b' _ => ih a' b'

theorem follows_membership (negated : Bool) {v w : Value} {x x' : Except CompileError Operand}
    (h : v.Alike w) (hx : d.Follows body AlikeOperands x x') :
    d.Follows body AlikeOperands (membership negated v x) (membership negated w x') := by
  cases v with
  | list items =>
    obtain ⟨items', rfl, hitems⟩ := h.of_list
    -- Each item is compared with the field, and each comparison is a matter of types.
    refine hx.bind fun o o' ho => ?_
    cases ho with
    | constant _ => exact .error _ _
    | clause a b => exact .error _ _
    | field f =>
      exact (follows_foldlM_addItem f negated hitems _ _).bind fun _ _ _ => .ok (.clause _ _)
  | _ => exact .error _ _

/-! ### Whole predicates -/

theorem follows_value (h : c.Alike d) {e : Expr} (he : e.Occurs body)
    (hclosed : e.isClosed = true) : d.Follows body Value.Alike (c.value e) (d.value e) := by
  intro v hv
  rw [value_eq_ok] at hv
  cases hw : e.evaluate d.library d.scope with
  | ok w =>
    have hvw : v.Alike w := by
      rw [h.builtin.1] at hv
      rw [h.builtin.2] at hw
      exact Expr.related_evaluate h.scope e v w hv hw
    exact .inl ⟨w, value_eq_ok.mpr hw, hvw⟩
  | error cause =>
    have hfails : d.value e = .error (.failedEvaluation e cause) := by
      rw [value, hw]
    exact .inr ⟨_, hfails, e, cause, he, hclosed, hw, rfl⟩

theorem follows_closed (h : c.Alike d) {e : Expr} (he : e.Occurs body)
    (hclosed : e.isClosed = true) (negated : Bool) :
    d.Follows body AlikeOperands (c.closed e negated) (d.closed e negated) := by
  refine (follows_value h he hclosed).bind fun v w hvw => ?_
  -- Whether a negation is refused shows in the type.
  cases negated with
  | false => exact .ok (.constant hvw)
  | true =>
    cases v with
    | boolean b =>
      obtain ⟨b', rfl⟩ := Value.type_eq_boolean_iff.mp hvw.type_eq.symm
      exact .ok (.constant (.plain rfl nofun))
    | _ => exact .error _ _

/-- Fields are looked up in the catalog alone. -/
theorem follows_field (h : c.Alike d) (e : Expr) (negated : Bool) :
    d.Follows body AlikeOperands (c.field e negated) (d.field e negated) := by
  have hsame : c.field e negated = d.field e negated := by
    unfold field
    rw [h.catalog]
  intro o ho
  exact .inl ⟨o, hsame ▸ ho, .refl o⟩

theorem follows_operand (h : c.Alike d) {e : Expr} (he : e.Occurs body) (negated : Bool) :
    d.Follows body AlikeOperands (c.operand e negated) (d.operand e negated) := by
  induction e using Expr.parts_induction generalizing negated with | node e ih
  have hpart (part : Expr) (hmem : part ∈ e.parts) (negated : Bool) :
      d.Follows body AlikeOperands (c.operand part negated) (d.operand part negated) :=
    ih part hmem (he.part hmem) negated
  by_cases hclosed : e.isClosed = true
  · rw [operand_of_isClosed hclosed, operand_of_isClosed hclosed]
    exact follows_closed h he hclosed negated
  rw [operand.eq_def, operand.eq_def d e, if_neg hclosed, if_neg hclosed]
  cases e with
  | parameter | constant _ | captured _ | call _ _ | list _ => exact .error _ _
  | member target name => exact follows_field h _ negated
  | unary op inner =>
    cases op with
    | not => exact hpart inner List.mem_cons_self (!negated)
    | negate => exact .error _ _
  | binary left op right =>
    have hleft := hpart left List.mem_cons_self false
    have hright := hpart right (List.mem_cons_of_mem _ List.mem_cons_self) false
    cases op with
    | arith op => exact .error _ _
    | compare op =>
      exact hleft.bind fun _ _ hl => hright.bind fun _ _ hr => follows_comparison _ hl hr
    | logic op =>
      cases negated with
      | true => exact .error _ _
      | false =>
        refine hleft.bind fun l l' hl => (follows_condition _ hl).bind fun a a' _ => ?_
        refine hright.bind fun r r' hr => (follows_condition _ hr).bind fun b b' _ => ?_
        cases op with
        | and => exact .ok (.clause _ _)
        | or => exact .ok (.clause _ _)
  | method target name args =>
    rcases args with _ | ⟨arg, _ | ⟨_, _⟩⟩
    · exact .error _ _
    · have harg := hpart arg (List.mem_cons_of_mem _ List.mem_cons_self) false
      dsimp only
      split
      · exact .error _ _
      · split
        · next htarget =>
          split
          · exact (follows_value h (he.part List.mem_cons_self) htarget).bind fun _ _ hv =>
              follows_membership negated hv harg
          · exact .error _ _
        · exact (hpart target List.mem_cons_self false).bind fun _ _ hl =>
            follows_method _ name negated hl harg
    · exact .error _ _

/-- A predicate that compiles with some captured variables compiles with any that are alike, or a
closed part of it has no value then, which is the failure. No other failure is possible. -/
theorem compile_alike (h : c.Alike d) {p : Lambda} {r : Compiled} (hr : c.compile p = .ok r) :
    (∃ r', d.compile p = .ok r') ∨
      ∃ part cause, part.Occurs p.body ∧ part.isClosed = true ∧
        part.evaluate d.library d.scope = .error cause ∧
        d.compile p = .error (.failedEvaluation part cause) := by
  obtain ⟨a, ⟨o, ho, ha⟩, -⟩ := compile_eq_ok_iff.mp hr
  have hclause : d.Follows p.body Whatever (c.operand p.body false >>= condition .predicate)
      (d.operand p.body false >>= condition .predicate) :=
    (follows_operand h .here false).bind fun _ _ ho => follows_condition .predicate ho
  -- A clause that is made is proper, so it does not fail any more.
  rcases hclause a (bind_eq_ok.mpr ⟨o, ho, ha⟩) with
    ⟨b, hb, -⟩ | ⟨_, hstop, part, cause, hpart, hclosed, hcause, rfl⟩
  · obtain ⟨o', ho', hb⟩ := bind_eq_ok.mp hb
    exact .inl ⟨b.outcome, compile_eq_ok_iff.mpr ⟨b, ⟨o', ho', hb⟩, rfl⟩⟩
  · refine .inr ⟨part, cause, hpart, hclosed, hcause, ?_⟩
    unfold compile
    rw [← bind_assoc, hstop]
    rfl

/-- With 3 for the limit `x.Options.Priority > limit + 1` has a filter. The greatest number is
alike, and with it the sum overflows. -/
theorem compile_alike_limit :
    let c (limit : Int64) : Compiler := { Scenario.compilerAtNoon .task with
      scope := ⟨.ofList [("limit", .int limit)], Scenario.noon⟩ }
    let sum : Expr := .binary (.captured "limit") (.arith .add) (.constant (.int 1))
    let p : Lambda := ⟨"x", .binary (.member (.member .parameter "Options") "Priority")
      (.compare .greater) sum⟩
    (c 3).compile p = .ok (.filter ⟨[⟨[Scenario.priority .greaterThan 4]⟩]⟩) ∧
      (c Int64.maxValue).compile p = .error (.failedEvaluation sum (.overflow "+")) ∧
      ((∃ r, (c Int64.maxValue).compile p = .ok r) ∨
        ∃ part cause, part.Occurs p.body ∧ part.isClosed = true ∧
          part.evaluate (c Int64.maxValue).library (c Int64.maxValue).scope = .error cause ∧
          (c Int64.maxValue).compile p = .error (.failedEvaluation part cause)) := by
  intro c sum p
  have halike : (c 3).Alike (c Int64.maxValue) := by
    refine ⟨⟨rfl, rfl⟩, rfl, fun name => ?_⟩
    have hbound (limit : Int64) : (c limit).scope.captured.get? name =
        if name = "limit" then some (.int limit) else none :=
      Table.get?_insert .empty "limit" name (Value.int limit)
    rw [hbound, hbound]
    split
    · exact .some (.plain rfl nofun)
    · exact .none
  exact ⟨rfl, rfl, compile_alike halike rfl⟩

end Compiler
end Listing
