import Listing.Proofs.Compile.Connectives
import Listing.Proofs.Compile.Joining
import Listing.Proofs.Meaning.Evaluation
import Listing.Query

/-! # Grouping of chained predicates

  Predicates that are chained with one logical operator may be put in
  parentheses in any way. Wherever two groupings of a chain compile they
  compile to the same: joining outcomes is associative, and where closed
  neighbours are evaluated together, a predicate that decides the
  operator before its neighbours are looked at decides it in every other
  grouping as well.
-/

namespace Listing

/-! ### Joining outcomes

    The outcomes form a monoid under either operator. The constant that
    decides the operator absorbs every other outcome, and no join gives
    this constant unless it is among what is joined. -/

/-- The clause of a compiled predicate. -/
def Compiled.clause : Compiled → Clause
  | .constant b => .constant b
  | .filter f => .any f

@[simp] theorem Compiled.outcome_clause (x : Compiled) : x.clause.outcome = x := by
  cases x <;> rfl

namespace Connective

variable {op : Connective}

@[simp] theorem joinCompiled_decider_left (a : Compiled) :
    op.joinCompiled (.constant op.decider) a = .constant op.decider := by
  cases op <;> rfl

@[simp] theorem joinCompiled_decider_right (a : Compiled) :
    op.joinCompiled a (.constant op.decider) = .constant op.decider := by
  cases op <;> rcases a with (_ | _) | _ <;> rfl

@[simp] theorem joinCompiled_neutral_left (a : Compiled) :
    op.joinCompiled (.constant !op.decider) a = a := by
  cases op <;> rcases a with (_ | _) | _ <;> rfl

@[simp] theorem joinCompiled_neutral_right (a : Compiled) :
    op.joinCompiled a (.constant !op.decider) = a := by
  cases op <;> rcases a with (_ | _) | _ <;> rfl

/-- Outcomes are joined as their clauses are. -/
theorem joinCompiled_assoc (a b c : Compiled) :
    op.joinCompiled (op.joinCompiled a b) c = op.joinCompiled a (op.joinCompiled b c) := by
  have hclauses := congrArg Clause.outcome (op.join_assoc a.clause b.clause c.clause)
  simpa only [outcome_join, Compiled.outcome_clause] using hclauses

theorem eq_decider_of_joinCompiled {a b : Compiled}
    (h : op.joinCompiled a b = .constant op.decider) :
    a = .constant op.decider ∨ b = .constant op.decider := by
  match a, b with
  | .constant x, b =>
    rcases op.eq_decider_or_neutral x with rfl | rfl
    · exact .inl rfl
    · rw [joinCompiled_neutral_left] at h
      exact .inr h
  | .filter f, .constant x =>
    rcases op.eq_decider_or_neutral x with rfl | rfl
    · exact .inr rfl
    · rw [joinCompiled_neutral_right] at h
      exact .inl h
  | .filter f, .filter g => cases op <;> cases h

/-- The outcomes of a chain, joined from left to right. -/
def joinAll (op : Connective) (xs : List Compiled) : Compiled :=
  xs.foldr op.joinCompiled (.constant !op.decider)

theorem joinAll_singleton (x : Compiled) : op.joinAll [x] = x := joinCompiled_neutral_right x

theorem joinAll_append (xs ys : List Compiled) :
    op.joinAll (xs ++ ys) = op.joinCompiled (op.joinAll xs) (op.joinAll ys) := by
  induction xs with
  | nil => exact (joinCompiled_neutral_left _).symm
  | cons x xs ih =>
    show op.joinCompiled x (op.joinAll (xs ++ ys)) = _
    rw [ih, ← joinCompiled_assoc]
    rfl

/-- A chain is decided where one of its members decides it. -/
theorem joinAll_eq_decider_iff {xs : List Compiled} :
    op.joinAll xs = .constant op.decider ↔ .constant op.decider ∈ xs := by
  induction xs with
  | nil => cases op <;> simp [joinAll, decider]
  | cons x xs ih =>
    show op.joinCompiled x (op.joinAll xs) = _ ↔ _
    rw [List.mem_cons, ← ih]
    constructor
    · intro h
      exact (eq_decider_of_joinCompiled h).imp_left Eq.symm
    · rintro (rfl | h)
      · exact joinCompiled_decider_left _
      · rw [h]
        exact joinCompiled_decider_right _

/-- Two predicates as one, about the parameter of the first. -/
def joinLambda : Connective → Lambda → Lambda → Lambda
  | .and, p, q => p.and q
  | .or, p, q => ⟨p.parameter, p.body.or q.body⟩

theorem body_joinLambda (p q : Lambda) :
    (op.joinLambda p q).body = .binary p.body (.logic op) q.body := by
  cases op <;> rfl

end Connective

/-! ### Chains in parentheses -/

/-- Predicates in a row, with parentheses around neighbours. -/
inductive Grouping
  | single (p : Lambda)
  | join (left right : Grouping)

namespace Grouping

/-- The predicates from left to right. -/
def predicates : Grouping → List Lambda
  | .single p => [p]
  | .join left right => left.predicates ++ right.predicates

/-- All of them as one predicate. -/
def lambda (op : Connective) : Grouping → Lambda
  | .single p => p
  | .join left right => op.joinLambda (left.lambda op) (right.lambda op)

/-- The grouping in which each further predicate is joined to all that come before it. -/
def leftNested (first : Lambda) (rest : List Lambda) : Grouping :=
  rest.foldl (fun g p => .join g (.single p)) (.single first)

theorem predicates_ne_nil (g : Grouping) : g.predicates ≠ [] := by
  induction g with
  | single p => exact List.cons_ne_nil p []
  | join left right ihleft _ => exact List.append_ne_nil_of_left_ne_nil ihleft right.predicates

end Grouping

namespace Compiler

variable {c : Compiler} {op : Connective}

/-! ### One operator -/

/-- A predicate that joins two others compiles to the outcome that theirs determine, or its left
side decides it and both sides are evaluated as one. -/
theorem reduces_logic_cases {l r : Expr} {a : Clause}
    (h : c.Reduces (.binary l (.logic op) r) a) :
    (c.Reduces l (.constant op.decider) ∧ a = .constant op.decider) ∨
      ∃ x y, c.Reduces l x ∧ c.Reduces r y ∧ a.outcome = op.joinCompiled x.outcome y.outcome := by
  by_cases hclosed : (Expr.binary l (.logic op) r).isClosed = true
  · obtain ⟨hl, hr⟩ := Bool.and_eq_true_iff.mp hclosed
    obtain ⟨b, hb, rfl⟩ := (reduces_of_isClosed hclosed).mp h
    obtain ⟨p, hp, ⟨rfl, hb⟩ | ⟨hundecided, q, hq, hb⟩⟩ := Expr.evaluate_logic_eq_ok hb
    · cases hb
      exact .inl ⟨(reduces_of_isClosed hl).mpr ⟨_, hp, rfl⟩, rfl⟩
    · cases hb
      have hneutral : p = !op.decider := (op.eq_decider_or_neutral p).resolve_left hundecided
      refine .inr ⟨.constant p, .constant b, ?_, ?_, ?_⟩
      · exact (reduces_of_isClosed hl).mpr ⟨p, hp, rfl⟩
      · exact (reduces_of_isClosed hr).mpr ⟨b, hq, rfl⟩
      · rw [hneutral]
        exact (Connective.joinCompiled_neutral_left _).symm
  · have hopen : (Expr.binary l (.logic op) r).isClosed = false := by simpa using hclosed
    obtain ⟨x, y, hx, hy, rfl⟩ := (reduces_logic_iff hopen).mp h
    exact .inr ⟨x, y, hx, hy, op.outcome_join x y⟩

/-! ### Chains

    What a chain compiles to is said of the list of its predicates alone,
    so that no grouping is left in it. -/

/-- The predicate compiles to the constant that decides the operator. -/
def Decides (c : Compiler) (op : Connective) (p : Lambda) : Prop :=
  c.compile p = .ok (.constant op.decider)

/-- The outcome of a chain of predicates. -/
inductive ChainsTo (c : Compiler) (op : Connective) (ps : List Lambda) : Compiled → Prop
  /-- One predicate decides the operator; the others may not even compile. -/
  | decided {p : Lambda} (hp : p ∈ ps) (hdecides : c.Decides op p) :
      ChainsTo c op ps (.constant op.decider)
  /-- All predicates compile, and their outcomes are joined. -/
  | joined (xs : List Compiled) (hxs : ps.map c.compile = xs.map .ok) :
      ChainsTo c op ps (op.joinAll xs)

/-- Outcomes decide the operator where predicates do. -/
theorem decider_mem_iff {ps : List Lambda} {xs : List Compiled}
    (hxs : ps.map c.compile = xs.map .ok) :
    .constant op.decider ∈ xs ↔ ∃ p ∈ ps, c.Decides op p := by
  constructor
  · intro hmem
    have hok : .ok (.constant op.decider) ∈ ps.map c.compile := hxs ▸ List.mem_map_of_mem hmem
    exact List.mem_map.mp hok
  · rintro ⟨p, hp, hdecides⟩
    have hok : c.compile p ∈ xs.map .ok := hxs ▸ List.mem_map_of_mem hp
    obtain ⟨x, hx, heq⟩ := List.mem_map.mp hok
    cases heq.trans hdecides
    exact hx

namespace ChainsTo

variable {ps qs : List Lambda} {x y : Compiled}

theorem exists_decides (h : c.ChainsTo op ps x) (hx : x = .constant op.decider) :
    ∃ p ∈ ps, c.Decides op p := by
  cases h with
  | decided hp hdecides => exact ⟨_, hp, hdecides⟩
  | joined xs hxs => exact (decider_mem_iff hxs).mp (Connective.joinAll_eq_decider_iff.mp hx)

theorem eq_decider (h : c.ChainsTo op ps x) {p : Lambda} (hp : p ∈ ps)
    (hdecides : c.Decides op p) : x = .constant op.decider := by
  cases h with
  | decided => rfl
  | joined xs hxs =>
    exact Connective.joinAll_eq_decider_iff.mpr ((decider_mem_iff hxs).mpr ⟨p, hp, hdecides⟩)

/-- A chain has one outcome. -/
theorem unique (hx : c.ChainsTo op ps x) (hy : c.ChainsTo op ps y) : x = y := by
  cases hx with
  | decided hp hdecides => exact (hy.eq_decider hp hdecides).symm
  | joined xs hxs =>
    cases hy with
    | decided hp hdecides => exact (joined xs hxs).eq_decider hp hdecides
    | joined ys hys =>
      have heq : xs.map (Except.ok (ε := CompileError)) = ys.map .ok := hxs.symm.trans hys
      rw [List.map_injective_iff.mpr (fun _ _ h => Except.ok.inj h) heq]

/-- Two chains make up a longer one, and their outcomes are joined. -/
theorem append (hx : c.ChainsTo op ps x) (hy : c.ChainsTo op qs y) :
    c.ChainsTo op (ps ++ qs) (op.joinCompiled x y) := by
  cases hx with
  | decided hp hdecides =>
    rw [Connective.joinCompiled_decider_left]
    exact .decided (List.mem_append_left qs hp) hdecides
  | joined xs hxs =>
    cases hy with
    | decided hp hdecides =>
      rw [Connective.joinCompiled_decider_right]
      exact .decided (List.mem_append_right ps hp) hdecides
    | joined ys hys =>
      rw [← Connective.joinAll_append]
      exact .joined (xs ++ ys) (by rw [List.map_append, List.map_append, hxs, hys])

end ChainsTo

/-- A grouping that compiles, compiles to the outcome of its chain. -/
theorem chainsTo_of_compile {g : Grouping} {x : Compiled}
    (h : c.compile (g.lambda op) = .ok x) : c.ChainsTo op g.predicates x := by
  induction g generalizing x with
  | single p =>
    have hsingle : op.joinAll [x] = x := Connective.joinAll_singleton x
    have hchain : c.ChainsTo op [p] (op.joinAll [x]) := .joined [x] (congrArg (fun r => [r]) h)
    rw [hsingle] at hchain
    exact hchain
  | join left right ihleft ihright =>
    obtain ⟨a, ha, rfl⟩ := compile_eq_ok_iff.mp h
    rw [Grouping.lambda, Connective.body_joinLambda] at ha
    rcases reduces_logic_cases ha with ⟨hdecider, rfl⟩ | ⟨y, z, hy, hz, hjoin⟩
    · -- What decides the left side as a whole is one of the predicates there.
      have hleft := ihleft (compile_eq_ok_iff.mpr ⟨_, hdecider, rfl⟩)
      obtain ⟨p, hp, hdecides⟩ := hleft.exists_decides rfl
      exact .decided (List.mem_append_left _ hp) hdecides
    · have hleft := ihleft (compile_eq_ok_iff.mpr ⟨y, hy, rfl⟩)
      have hright := ihright (compile_eq_ok_iff.mpr ⟨z, hz, rfl⟩)
      rw [hjoin]
      exact hleft.append hright

/-! ### Conditions of a query -/

theorem predicates_leftNested (first : Lambda) (rest : List Lambda) :
    (Grouping.leftNested first rest).predicates = first :: rest := by
  have hgrow (g : Grouping) (rest : List Lambda) :
      (rest.foldl (fun g p => Grouping.join g (.single p)) g).predicates =
        g.predicates ++ rest := by
    induction rest generalizing g with
    | nil => exact (List.append_nil _).symm
    | cons p rest ih =>
      rw [List.foldl_cons, ih, Grouping.predicates, List.append_assoc]
      rfl
  exact hgrow (.single first) rest

/-- Conditions that are put on a query one after another are chained from the left. -/
theorem predicate_of_filters {q : Query} (hq : q.predicate = none) (first : Lambda)
    (rest : List Lambda) :
    ((first :: rest).foldl Query.filter q).predicate =
      some ((Grouping.leftNested first rest).lambda .and) := by
  have hgrow (r : Query) (g : Grouping) (rest : List Lambda)
      (hr : r.predicate = some (g.lambda .and)) :
      (rest.foldl Query.filter r).predicate =
        some ((rest.foldl (fun g p => Grouping.join g (.single p)) g).lambda .and) := by
    induction rest generalizing r g with
    | nil => exact hr
    | cons p rest ih =>
      have hstep : (r.filter p).predicate = some ((Grouping.join g (.single p)).lambda .and) := by
        rw [Query.filter, hr]
        rfl
      exact ih _ _ hstep
  have hfirst : (q.filter first).predicate = some ((Grouping.single first).lambda .and) := by
    rw [Query.filter, hq]
    rfl
  exact hgrow _ _ rest hfirst

/-- Two groupings of one chain of predicates that both compile, compile to the same, under either
operator. One of the groupings is what a query makes of conditions that are put on it one after
another. -/
theorem compile_grouping (c : Compiler) (op : Connective) :
    (∀ (s t : Grouping) (x y : Compiled), s.predicates = t.predicates →
      c.compile (s.lambda op) = .ok x → c.compile (t.lambda op) = .ok y → x = y) ∧
    ∀ (q : Query) (first : Lambda) (rest : List Lambda), q.predicate = none →
      (Grouping.leftNested first rest).predicates = first :: rest ∧
        ((first :: rest).foldl Query.filter q).predicate =
          some ((Grouping.leftNested first rest).lambda .and) := by
  constructor
  · intro s t x y hpredicates hx hy
    have hs : c.ChainsTo op s.predicates x := chainsTo_of_compile hx
    have ht : c.ChainsTo op t.predicates y := chainsTo_of_compile hy
    exact hs.unique (hpredicates ▸ ht)
  · intro q first rest hq
    exact ⟨predicates_leftNested first rest, predicate_of_filters hq first rest⟩

/-- Four conditions on tasks of which the middle two are closed. From the left they are joined one
by one, and in the other grouping the middle two are evaluated as one. -/
theorem compile_grouping_around_limits :
    let c : Compiler := { Scenario.compilerAtNoon .task with
      scope := ⟨.ofList [("limit", .int 3)], Scenario.noon⟩ }
    let limit (op : Comparison) (n : Int64) : Lambda :=
      ⟨"y", .binary (.captured "limit") (.compare op) (.constant (.int n))⟩
    let named : Lambda :=
      ⟨"x", .method (.member .parameter "TaskId") "StartsWith" [.constant (.string "a")]⟩
    let listed : Lambda :=
      ⟨"t", .method (.list [.constant (.string "u"), .constant (.string "v")]) "Contains"
        [.member .parameter "SessionId"]⟩
    let low := limit .greater 2
    let high := limit .less 7
    let middle : Grouping := .join (.single low) (.single high)
    let s : Grouping := .leftNested named [low, high, listed]
    let t : Grouping := .join (.single named) (.join middle (.single listed))
    let isNamed : FieldTest := ⟨⟨.task, .summary, 1⟩, .string .startsWith "a"⟩
    let inSession (id : String) : FieldTest := ⟨⟨.task, .summary, 2⟩, .string .equal id⟩
    let f : Filter := ⟨[⟨[isNamed, inSession "u"]⟩, ⟨[isNamed, inSession "v"]⟩]⟩
    let q := Query.ofEntity .task Scenario.noon
    s.predicates = t.predicates ∧ c.compile (s.lambda .and) = .ok (.filter f) ∧
      (∃ y, c.compile (t.lambda .and) = .ok y) ∧
      (∀ y, c.compile (t.lambda .and) = .ok y → .filter f = y) ∧
      ([named, low, high, listed].foldl Query.filter q).predicate = some (s.lambda .and) := by
  intro c limit named listed low high middle s t isNamed inSession f q
  have hpredicates : s.predicates = t.predicates := rfl
  have hs : c.compile (s.lambda .and) = .ok (.filter f) := rfl
  obtain ⟨hunique, hquery⟩ := compile_grouping c .and
  have ht (y : Compiled) (hy : c.compile (t.lambda .and) = .ok y) : .filter f = y :=
    hunique s t (.filter f) y hpredicates hs hy
  have hq := (hquery q named [low, high, listed] rfl).2
  exact ⟨hpredicates, hs, ⟨.filter f, rfl⟩, ht, hq⟩

end Compiler
end Listing
