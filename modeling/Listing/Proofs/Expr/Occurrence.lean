import Mathlib.Data.List.Induction
import Listing.Expr.Basic

/-! # Occurrences in an expression

  An expression is made of parts, these of parts again, and all of them
  occur in it. Among the expressions that occur the chains of members
  that start at the parameter matter most, since they name fields: a
  chain is the list of its names, and its path is their dotted text.
-/

namespace Listing.Expr

/-! ### Parts -/

/-- The expressions that an expression is directly made of. -/
def parts : Expr → List Expr
  | .parameter | .constant _ | .captured _ => []
  | .member target _ => [target]
  | .call _ args => args
  | .method target _ args => target :: args
  | .list items => items
  | .binary left _ right => [left, right]
  | .unary _ operand => [operand]

theorem sizeOf_lt_of_mem_parts {part whole : Expr} (h : part ∈ whole.parts) :
    sizeOf part < sizeOf whole := by
  cases whole with
  | parameter | constant _ | captured _ => cases h
  | member target name =>
    rw [List.mem_singleton.mp h, member.sizeOf_spec]
    omega
  | call function args =>
    have hargs : sizeOf part < sizeOf args := List.sizeOf_lt_of_mem h
    rw [call.sizeOf_spec]
    omega
  | method target function args =>
    rw [method.sizeOf_spec]
    rcases List.mem_cons.mp h with rfl | harg
    · omega
    · have hargs : sizeOf part < sizeOf args := List.sizeOf_lt_of_mem harg
      omega
  | list items =>
    have hitems : sizeOf part < sizeOf items := List.sizeOf_lt_of_mem h
    rw [list.sizeOf_spec]
    omega
  | binary left op right =>
    rw [binary.sizeOf_spec]
    rcases List.mem_cons.mp h with rfl | hright
    · omega
    · rw [List.mem_singleton.mp hright]
      omega
  | unary op operand =>
    rw [List.mem_singleton.mp h, unary.sizeOf_spec]
    omega

/-- What holds of an expression as soon as it holds of its parts holds of every expression. -/
theorem parts_induction {P : Expr → Prop} (node : ∀ e, (∀ part ∈ e.parts, P part) → P e)
    (e : Expr) : P e :=
  node e fun part _ => parts_induction node part
termination_by sizeOf e
decreasing_by exact sizeOf_lt_of_mem_parts ‹_›

/-- The expression stands somewhere in the whole, or is the whole. -/
inductive Occurs (e : Expr) : Expr → Prop
  /-- The whole occurs in itself. -/
  | here : Occurs e e
  /-- What occurs in a part occurs in the whole. -/
  | inside {part whole : Expr} (hpart : part ∈ whole.parts) (h : Occurs e part) : Occurs e whole

namespace Occurs

variable {e d whole : Expr}

theorem trans (h : e.Occurs d) (hd : d.Occurs whole) : e.Occurs whole := by
  induction hd with
  | here => exact h
  | inside hpart _ ih => exact .inside hpart ih

/-- The parts of what occurs occur. -/
theorem part (h : d.Occurs whole) (hpart : e ∈ d.parts) : e.Occurs whole :=
  (Occurs.inside hpart .here).trans h

end Occurs

/-! ### Where the parameter occurs -/

theorem allClosed_iff {es : List Expr} :
    allClosed es = true ↔ ∀ e ∈ es, e.isClosed = true := by
  induction es with
  | nil => simp [allClosed]
  | cons e es ih => simp [allClosed, ih]

/-- Apart from the parameter itself, an expression is closed where all of its parts are. -/
theorem isClosed_iff_parts {e : Expr} (he : e ≠ .parameter) :
    e.isClosed = true ↔ ∀ part ∈ e.parts, part.isClosed = true := by
  cases e with
  | parameter => exact absurd rfl he
  | _ => simp [isClosed, parts, allClosed_iff]

/-- An expression is open where the parameter occurs in it. -/
theorem isClosed_eq_false_iff {e : Expr} : e.isClosed = false ↔ Expr.parameter.Occurs e := by
  induction e using parts_induction with | node e ih
  by_cases he : e = .parameter
  · subst he
    exact ⟨fun _ => .here, fun _ => rfl⟩
  rw [← Bool.not_eq_true, isClosed_iff_parts he]
  constructor
  · intro hopen
    push Not at hopen
    obtain ⟨part, hpart, hpartOpen⟩ := hopen
    exact .inside hpart ((ih part hpart).mp (Bool.eq_false_iff.mpr hpartOpen))
  · intro hoccurs hclosed
    cases hoccurs with
    | here => exact he rfl
    | @inside part _ hpart hoccurs =>
      have hopen := (ih part hpart).mpr hoccurs
      rw [hclosed part hpart] at hopen
      cases hopen

/-- The expression stands where a truth value is asked for: it is the whole, or an operand of a
logical operator or of a negation in it. -/
inductive StandsAlone (e whole : Expr) : Prop
  | whole (h : e = whole)
  | negated (h : (Expr.unary .not e).Occurs whole)
  | left {op : Connective} {right : Expr} (h : (Expr.binary e (.logic op) right).Occurs whole)
  | right {op : Connective} {left : Expr} (h : (Expr.binary left (.logic op) e).Occurs whole)

/-! ### Chains of members -/

/-- The members of the given names, one after another, from the parameter on. -/
def chain (names : List String) : Expr := names.foldl .member .parameter

theorem chain_concat (names : List String) (name : String) :
    chain (names ++ [name]) = .member (chain names) name := by
  simp [chain]

theorem memberNames_chain (names : List String) : (chain names).memberNames = some names := by
  -- A chain grows at its end, so the induction takes the last name off.
  induction names using List.reverseRecOn with
  | nil => rfl
  | append_singleton names name ih =>
    rw [chain_concat, memberNames, ih]
    rfl

theorem eq_chain_of_memberNames {e : Expr} {names : List String}
    (h : e.memberNames = some names) : e = chain names := by
  induction e using memberNames.induct generalizing names with
  | case1 => cases h; rfl
  | case2 target name ih =>
    rw [memberNames] at h
    obtain ⟨before, hbefore, rfl⟩ := Option.map_eq_some_iff.mp h
    rw [chain_concat, ← ih hbefore]
  | case3 e hparameter hmember =>
    rw [memberNames] at h
    · cases h
    · exact hparameter
    · exact hmember

theorem chain_injective {names names' : List String} (h : chain names = chain names') :
    names = names' := by
  have hnames := congrArg memberNames h
  rw [memberNames_chain, memberNames_chain] at hnames
  exact Option.some.inj hnames

theorem isClosed_chain (names : List String) : (chain names).isClosed = false := by
  induction names using List.reverseRecOn with
  | nil => rfl
  | append_singleton names name ih => rw [chain_concat, isClosed, ih]

/-- Only chains of at least one member have a path, and it is the dotted text of their names. -/
theorem fieldPath?_eq_some_iff {e : Expr} {path : String} :
    e.fieldPath? = some path ↔
      ∃ names, names ≠ [] ∧ e = chain names ∧ ".".intercalate names = path := by
  unfold fieldPath?
  constructor
  · intro h
    split at h
    · cases h
    · cases h
    · next names hne hnames =>
      injection h with h
      exact ⟨names, hne, eq_chain_of_memberNames hnames, h⟩
  · rintro ⟨names, hne, rfl, rfl⟩
    rw [memberNames_chain]
    cases names with
    | nil => exact absurd rfl hne
    | cons name names => rfl

/-! ### Dotted texts -/

/-- The names with dots between them, if there are any. -/
def dotted? : List String → Option String
  | [] => none
  | name :: names => some (".".intercalate (name :: names))

theorem dotted?_eq_some_iff {names : List String} {path : String} :
    dotted? names = some path ↔ names ≠ [] ∧ ".".intercalate names = path := by
  cases names <;> simp [dotted?]

/-- A text, which may be missing, with one more name behind it. -/
def dottedWith (name : String) : Option String → String
  | none => name
  | some path => path ++ "." ++ name

theorem dotted?_concat (names : List String) (name : String) :
    dotted? (names ++ [name]) = some (dottedWith name (dotted? names)) := by
  cases names with
  | nil => simp [dotted?, dottedWith]
  | cons first names =>
    have hne : first :: names ≠ [] := List.cons_ne_nil first names
    rw [dotted?_eq_some_iff]
    refine ⟨List.concat_ne_nil name (first :: names), ?_⟩
    rw [String.intercalate_append_of_ne_nil hne (List.cons_ne_nil name []),
      String.intercalate_singleton]
    rfl

/-- The dotted text of a chain of members that starts at the parameter; of the parameter itself it
is missing. -/
def chainText? (e : Expr) : Option (Option String) := e.memberNames.map dotted?

theorem fieldPath?_eq_join (e : Expr) : e.fieldPath? = e.chainText?.join := by
  unfold fieldPath? chainText?
  cases e.memberNames with
  | none => rfl
  | some names => cases names <;> rfl

/-- A further member sees only the text of the chain before it. -/
theorem chainText?_member (e : Expr) (name : String) :
    (Expr.member e name).chainText? = e.chainText?.map fun text => some (dottedWith name text) := by
  unfold chainText?
  rw [memberNames, Option.map_map, Option.map_map]
  congr 1
  funext names
  exact dotted?_concat names name

/-! ### Negations -/

/-- The expression under negations, an odd number of them if the flag is set. -/
inductive Negations (e : Expr) : Bool → Expr → Prop
  | none : Negations e false e
  | not {odd : Bool} {d : Expr} (h : Negations e odd d) : Negations e (!odd) (.unary .not d)

section

variable {e outer : Expr} {odd : Bool}

theorem Negations.inner (h : Negations (.unary .not e) odd outer) :
    Negations e (!odd) outer := by
  induction h with
  | none => exact .not .none
  | not _ ih => exact .not ih

theorem Negations.isClosed_eq (h : Negations e odd outer) : outer.isClosed = e.isClosed := by
  induction h with
  | none => rfl
  | not _ ih => exact ih

theorem Negations.occurs (h : Negations e odd outer) : e.Occurs outer := by
  induction h with
  | none => exact .here
  | not _ ih => exact .inside (.head _) ih

/-- Under its negations the chain is settled. -/
theorem Negations.names_eq {names names' : List String} {odd' : Bool}
    (h : Negations (chain names) odd e) (h' : Negations (chain names') odd' e) :
    names = names' := by
  have hne : ∀ (names : List String) (d : Expr), chain names ≠ .unary .not d := by
    intro names d heq
    have hnames := congrArg memberNames heq
    rw [memberNames_chain] at hnames
    cases hnames
  induction h generalizing odd' with
  | none =>
    generalize hchain : chain names = e at h'
    cases h' with
    | none => exact chain_injective hchain
    | not _ => exact absurd hchain (hne names _)
  | not h ih =>
    generalize hchain : Expr.unary .not _ = e at h'
    cases h' with
    | none => exact absurd hchain.symm (hne names' _)
    | not h' =>
      cases hchain
      exact ih h'

/-- Either there is no negation, or one stands next to the expression. -/
theorem Negations.eq_or (h : Negations e odd outer) :
    outer = e ∨ ∃ inner, outer = .unary .not inner ∧ (Expr.unary .not e).Occurs outer := by
  induction h with
  | none => exact .inl rfl
  | not h ih =>
    rcases ih with rfl | ⟨_, _, hoccurs⟩
    · exact .inr ⟨_, rfl, .here⟩
    · exact .inr ⟨_, rfl, .inside (.head _) hoccurs⟩

end

end Listing.Expr
