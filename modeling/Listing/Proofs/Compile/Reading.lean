import Listing.Proofs.Compile.Derivation
import Listing.Proofs.Library.Builtin
import Listing.Scenario.Task

/-! # What compilation reads

  Of its surroundings the compiler looks at nothing that the predicate
  does not mention: at the variables that are named in it, at the fields
  that its chains of members name, and at the time if it asks for the
  time. Surroundings that agree there lead to the same result or to the
  same failure. And a predicate that compiles keeps its result when
  variables and fields are added, even those that it mentions without
  having come to need them.
-/

namespace Listing

/-! ### Evaluation -/

/-- What the expression finds in the first scope it finds in the second as well, and the functions
that it calls do not tell the two apart. In a lenient reading the second may have variables that
the first has not. -/
structure Scope.TrackedOn (lenient : Prop) (lib : Library) (s t : Scope) (e : Expr) : Prop where
  captured : ∀ name, (Expr.captured name).Occurs e →
    s.captured.get? name = t.captured.get? name ∨ lenient ∧ s.captured.get? name = none
  call : ∀ name args, (Expr.call name args).Occurs e →
    ∀ values, lib.call s name values = lib.call t name values
  method : ∀ target name args, (Expr.method target name args).Occurs e →
    ∀ receiver values, lib.call s name (receiver :: values) = lib.call t name (receiver :: values)

variable {lenient : Prop} {lib : Library} {s t : Scope}

theorem Scope.TrackedOn.part {part whole : Expr} (h : s.TrackedOn lenient lib t whole)
    (hpart : part ∈ whole.parts) : s.TrackedOn lenient lib t part where
  captured name hname := h.captured name (.inside hpart hname)
  call name args hcall := h.call name args (.inside hpart hcall)
  method target name args hmethod := h.method target name args (.inside hpart hmethod)

/-- Of the built-in functions, that of the time is the only one to look at the scope. -/
theorem Scope.trackedOn_builtin {e : Expr}
    (hcaptured : ∀ name, (Expr.captured name).Occurs e →
      s.captured.get? name = t.captured.get? name ∨ lenient ∧ s.captured.get? name = none)
    (hnow : (∃ name args, (Expr.call name args).Occurs e ∧ Text.lower name = "utcnow") →
      s.now = t.now) :
    s.TrackedOn lenient .builtin t e where
  captured := hcaptured
  call name args hcall _ :=
    Library.call_builtin_congr fun hname _ => hnow ⟨name, args, hcall, hname⟩
  -- There is a receiver, so the function does not tell the time.
  method _ _ _ _ receiver values :=
    Library.call_builtin_congr fun _ hnil => absurd hnil (List.cons_ne_nil receiver values)

theorem Scope.Agrees.trackedOn (h : s.Agrees t) (hlib : lib.LooksUp) (e : Expr) :
    s.TrackedOn False lib t e where
  captured name _ := .inl (h.captured name)
  call name _ _ values := hlib.call_congr h name values
  method _ name _ _ receiver values := hlib.call_congr h name (receiver :: values)

theorem Expr.tracks_evaluateAll {es : List Expr}
    (h : ∀ e ∈ es, Tracks lenient (e.evaluate lib s) (e.evaluate lib t)) :
    Tracks lenient (evaluateAll lib s es) (evaluateAll lib t es) := by
  induction es with
  | nil => exact .refl _
  | cons e es ih =>
    obtain ⟨he, hes⟩ := List.forall_mem_cons.mp h
    rw [evaluateAll, evaluateAll]
    exact he.bind fun _ => (ih hes).bind fun _ => .refl _

theorem Expr.tracks_evaluate {e : Expr} (h : s.TrackedOn lenient lib t e) :
    Tracks lenient (e.evaluate lib s) (e.evaluate lib t) := by
  induction e using parts_induction with | node e ih
  have hpart (part : Expr) (hmem : part ∈ e.parts) :
      Tracks lenient (part.evaluate lib s) (part.evaluate lib t) :=
    ih part hmem (h.part hmem)
  cases e with
  | parameter | constant _ => exact .refl _
  | captured name =>
    rw [evaluate, evaluate]
    rcases h.captured name .here with heq | ⟨hlenient, hnone⟩
    · rw [heq]
      exact .refl _
    · rw [hnone]
      exact .inr ⟨hlenient, _, rfl⟩
  | member target name =>
    rw [evaluate, evaluate]
    exact (hpart target List.mem_cons_self).bind fun _ => .refl _
  | call function args =>
    rw [evaluate, evaluate]
    refine (tracks_evaluateAll hpart).bind fun values => ?_
    rw [h.call function args .here values]
    exact .refl _
  | method target function args =>
    obtain ⟨htarget, hargs⟩ := List.forall_mem_cons.mp hpart
    rw [evaluate, evaluate]
    refine htarget.bind fun receiver => (tracks_evaluateAll hargs).bind fun values => ?_
    rw [h.method target function args .here receiver values]
    exact .refl _
  | list items =>
    rw [evaluate, evaluate]
    exact (tracks_evaluateAll hpart).bind fun _ => .refl _
  | binary left op right =>
    have hleft := hpart left List.mem_cons_self
    have hright := hpart right (List.mem_cons_of_mem _ List.mem_cons_self)
    cases op with
    | logic op =>
      rw [evaluate, evaluate]
      refine hleft.bind fun v => (Tracks.refl _).bind fun l => ?_
      split
      · exact .refl _
      · exact hright.bind fun _ => .refl _
    | arith op | compare op =>
      rw [evaluate, evaluate]
      exact hleft.bind fun _ => hright.bind fun _ => .refl _
  | unary op operand =>
    rw [evaluate, evaluate]
    exact (hpart operand List.mem_cons_self).bind fun _ => .refl _

namespace Compiler

/-! ### Compilation -/

/-- What the expression mentions is the same for both compilers, which know the same functions. In
a lenient reading the second may know variables and fields that the first does not. -/
structure TrackedOn (lenient : Prop) (c d : Compiler) (e : Expr) : Prop where
  library : c.library = d.library
  scope : c.scope.TrackedOn lenient c.library d.scope e
  entity : lenient ∨ c.catalog.entity = d.catalog.entity
  lookup : ∀ (chain : Expr) (path : String), chain.Occurs e → chain.fieldPath? = some path →
    c.catalog.lookup path = d.catalog.lookup path ∨ lenient ∧ c.catalog.lookup path = none

variable {c d : Compiler} {e : Expr}

theorem TrackedOn.part {part whole : Expr} (h : c.TrackedOn lenient d whole)
    (hpart : part ∈ whole.parts) : c.TrackedOn lenient d part where
  library := h.library
  scope := h.scope.part hpart
  entity := h.entity
  lookup chain path hchain := h.lookup chain path (.inside hpart hchain)

theorem tracks_value (h : c.TrackedOn lenient d e) :
    Tracks lenient (c.value e) (d.value e) := by
  have hvalue := Expr.tracks_evaluate h.scope
  unfold value
  rw [← h.library]
  rcases hvalue with heq | ⟨hlenient, cause, herror⟩
  · rw [heq]
    exact .refl _
  · rw [herror]
    exact .inr ⟨hlenient, _, rfl⟩

theorem tracks_field (h : c.TrackedOn lenient d e) (negated : Bool) :
    Tracks lenient (c.field e negated) (d.field e negated) := by
  unfold field
  cases hpath : e.fieldPath? with
  | none => exact .refl _
  | some path =>
    dsimp only
    rcases h.lookup e path .here hpath with heq | ⟨hlenient, hnone⟩
    · rw [← heq]
      cases c.catalog.lookup path with
      | some f => exact .refl _
      | none =>
        rcases h.entity with hlenient | hentity
        · exact .inr ⟨hlenient, _, rfl⟩
        · rw [hentity]
          exact .refl _
    · rw [hnone]
      exact .inr ⟨hlenient, _, rfl⟩

theorem tracks_method (m : TextMethod) (name : String) (negated : Bool) (l : Operand)
    {x y : Except CompileError Operand} (h : Tracks lenient x y) :
    Tracks lenient (method m name negated l x) (method m name negated l y) := by
  unfold method
  split
  · exact h.bind fun _ => .refl _
  · exact .refl _

theorem tracks_membership (negated : Bool) (items : Value) {x y : Except CompileError Operand}
    (h : Tracks lenient x y) :
    Tracks lenient (membership negated items x) (membership negated items y) := by
  unfold membership
  split
  · exact h.bind fun _ => .refl _
  · exact .refl _

theorem tracks_operand (h : c.TrackedOn lenient d e) (negated : Bool) :
    Tracks lenient (c.operand e negated) (d.operand e negated) := by
  induction e using Expr.parts_induction generalizing negated with | node e ih
  have hpart (part : Expr) (hmem : part ∈ e.parts) (negated : Bool) :
      Tracks lenient (c.operand part negated) (d.operand part negated) :=
    ih part hmem (h.part hmem) negated
  by_cases hclosed : e.isClosed = true
  -- A closed part is read as a whole, through its value, and an open one part by part.
  · rw [operand_of_isClosed hclosed, operand_of_isClosed hclosed]
    exact (tracks_value h).bind fun _ => .refl _
  rw [operand.eq_def, operand.eq_def d e, if_neg hclosed, if_neg hclosed]
  cases e with
  | parameter | constant _ | captured _ | call _ _ | list _ => exact .refl _
  | member target name => exact tracks_field h negated
  | unary op inner =>
    cases op with
    | not => exact hpart inner List.mem_cons_self (!negated)
    | negate => exact .refl _
  | binary left op right =>
    have hleft := hpart left List.mem_cons_self false
    have hright := hpart right (List.mem_cons_of_mem _ List.mem_cons_self) false
    cases op with
    | arith op => exact .refl _
    | compare op => exact hleft.bind fun _ => hright.bind fun _ => .refl _
    | logic op =>
      cases negated with
      | true => exact .refl _
      | false =>
        exact hleft.bind fun _ => (Tracks.refl _).bind fun _ => hright.bind fun _ => .refl _
  | method target name args =>
    rcases args with _ | ⟨arg, _ | ⟨_, _⟩⟩
    · exact .refl _
    · have harg := hpart arg (List.mem_cons_of_mem _ List.mem_cons_self) false
      dsimp only
      split
      · exact .refl _
      · split
        -- A closed target is a list to search, an open one a field.
        · split
          · exact (tracks_value (h.part List.mem_cons_self)).bind fun items =>
              tracks_membership negated items harg
          · exact .refl _
        · exact (hpart target List.mem_cons_self false).bind fun l =>
            tracks_method _ name negated l harg
    · exact .refl _

theorem tracks_compile {body : Expr} (h : c.TrackedOn lenient d body) (x y : String) :
    Tracks lenient (c.compile ⟨x, body⟩) (d.compile ⟨y, body⟩) :=
  (tracks_operand h false).bind fun _ => .refl _

/-- Nothing depends on the order in which the variables came. -/
theorem compile_eq_of_agrees (catalog : Catalog) {lib : Library} (hlib : lib.LooksUp)
    {s t : Scope} (h : s.Agrees t) (p : Lambda) :
    (Compiler.mk catalog lib s).compile p = (Compiler.mk catalog lib t).compile p := by
  have htracked : (Compiler.mk catalog lib s).TrackedOn False (.mk catalog lib t) p.body :=
    { library := rfl
      scope := h.trackedOn hlib p.body
      entity := .inr rfl
      lookup := fun _ _ _ _ => .inl rfl }
  exact (tracks_compile htracked p.parameter p.parameter).eq_of_strict

/-! ### Agreement and extension -/

/-- Both compilers know the same of what the expression mentions. Their clocks may differ if no
function of the expression tells the time. -/
structure AgreesOn (c d : Compiler) (e : Expr) : Prop where
  entity : c.catalog.entity = d.catalog.entity
  captured : ∀ name, (Expr.captured name).Occurs e →
    c.scope.captured.get? name = d.scope.captured.get? name
  lookup : ∀ (chain : Expr) (path : String), chain.Occurs e → chain.fieldPath? = some path →
    c.catalog.lookup path = d.catalog.lookup path
  now : (∃ name args, (Expr.call name args).Occurs e ∧ Text.lower name = "utcnow") →
    c.scope.now = d.scope.now

/-- The second compiler knows all variables and fields that the first knows, at the same time.
It may know more of them, and sort by another field. -/
structure ExtendedBy (c d : Compiler) : Prop where
  captured : ∀ name v, c.scope.captured.get? name = some v →
    d.scope.captured.get? name = some v
  lookup : ∀ path f, c.catalog.lookup path = some f → d.catalog.lookup path = some f
  now : c.scope.now = d.scope.now

theorem AgreesOn.trackedOn (hc : c.library = .builtin) (hd : d.library = .builtin)
    (h : c.AgreesOn d e) : c.TrackedOn False d e where
  library := hc.trans hd.symm
  scope := hc ▸ Scope.trackedOn_builtin (fun name hname => .inl (h.captured name hname)) h.now
  entity := .inr h.entity
  lookup chain path hchain hpath := .inl (h.lookup chain path hchain hpath)

theorem ExtendedBy.trackedOn (hc : c.library = .builtin) (hd : d.library = .builtin)
    (h : c.ExtendedBy d) (e : Expr) : c.TrackedOn True d e where
  library := hc.trans hd.symm
  scope := by
    refine hc ▸ Scope.trackedOn_builtin (fun name _ => ?_) fun _ => h.now
    cases hbound : c.scope.captured.get? name with
    | none => exact .inr ⟨trivial, rfl⟩
    | some v => exact .inl (h.captured name v hbound).symm
  entity := .inl trivial
  lookup chain path _ _ := by
    cases hfield : c.catalog.lookup path with
    | none => exact .inr ⟨trivial, rfl⟩
    | some f => exact .inl (h.lookup path f hfield).symm

/-- What a predicate compiles to, or how it fails, depends on what it mentions alone. A predicate
that compiles still compiles to the same when the compiler comes to know more. -/
theorem compile_reads_mentioned (hc : c.library = .builtin) (hd : d.library = .builtin)
    (body : Expr) (x y : String) :
    (c.AgreesOn d body → c.compile ⟨x, body⟩ = d.compile ⟨y, body⟩) ∧
    (c.ExtendedBy d → ∀ r, c.compile ⟨x, body⟩ = .ok r → d.compile ⟨y, body⟩ = .ok r) := by
  constructor
  · intro h
    exact (tracks_compile (h.trackedOn hc hd) x y).eq_of_strict
  · intro h r hr
    exact (tracks_compile (h.trackedOn hc hd body) x y).eq_ok hr

/-- `x.TaskId == id` mentions neither the variable `unbound` nor the field `Spare`, and has no
ordering of its own. `x.TaskId == id && (true || unbound)` mentions the variable but compiles
without it. -/
theorem compile_reads_mentioned_id :
    let c : Compiler := { Scenario.compilerAtNoon .task with
      scope := ⟨.ofList [("id", .string "t")], Scenario.noon⟩ }
    let d : Compiler :=
      { catalog := { c.catalog with
          fields := c.catalog.fields.insert "Spare" ⟨⟨.task, .summary, 99⟩, .string⟩
          defaultSort := ⟨.task, .summary, 2⟩ }
        library := .builtin
        scope := ⟨c.scope.captured.insert "unbound" (.int 7), Scenario.noon⟩ }
    let named : Expr :=
      .binary (.member .parameter "TaskId") (.compare .equal) (.captured "id")
    let body : Expr := named.and (.or (.constant (.boolean true)) (.captured "unbound"))
    c.compile ⟨"x", named⟩ = d.compile ⟨"task", named⟩ ∧
      d.compile ⟨"task", body⟩ =
        .ok (.filter ⟨[⟨[⟨⟨.task, .summary, 1⟩, .string .equal "t"⟩]⟩]⟩) := by
  intro c d named body
  have hoccurs (e : Expr) (h : e.Occurs named) : e = named ∨
      e = .member .parameter "TaskId" ∨ e = .parameter ∨ e = .captured "id" := by
    rcases h with _ | ⟨hpart, h⟩
    · exact .inl rfl
    rcases List.mem_cons.mp hpart with rfl | hpart
    · rcases h with _ | ⟨hpart, h⟩
      · exact .inr (.inl rfl)
      rw [List.mem_singleton.mp hpart] at h
      rcases h with _ | ⟨hpart, _⟩
      · exact .inr (.inr (.inl rfl))
      · cases hpart
    · rw [List.mem_singleton.mp hpart] at h
      rcases h with _ | ⟨hpart, _⟩
      · exact .inr (.inr (.inr rfl))
      · cases hpart
  have hagrees : c.AgreesOn d named := by
    refine ⟨rfl, ?_, ?_, fun _ => rfl⟩
    · intro name hname
      rcases hoccurs _ hname with h | h | h | h
      · exact absurd h nofun
      all_goals cases h
      rfl
    · intro chain path hchain hpath
      rcases hoccurs _ hchain with rfl | rfl | rfl | rfl <;> cases hpath
      rfl
  have hextended : c.ExtendedBy d := by
    refine ⟨fun name v hbound => ?_, fun path f hf => ?_, rfl⟩
    · show (c.scope.captured.insert "unbound" (.int 7)).get? name = some v
      have hname : name ≠ "unbound" := by
        rintro rfl
        cases hbound
      rw [Table.get?_insert, if_neg hname]
      exact hbound
    · show (c.catalog.fields.insert "Spare" _).get? path = some f
      have hpath : path ≠ "Spare" := by
        rintro rfl
        cases hf
      rw [Table.get?_insert, if_neg hpath]
      exact hf
  exact ⟨(compile_reads_mentioned rfl rfl named "x" "task").1 hagrees,
    (compile_reads_mentioned rfl rfl body "x" "task").2 hextended _ rfl⟩

end Compiler
end Listing
