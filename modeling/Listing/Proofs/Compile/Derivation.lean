import Listing.Compile.Predicate
import Listing.Proofs.Expr.Occurrence

/-! # Derivations of operands

  `Compiler.operand` succeeds in few ways: a closed part has a value, a
  chain of members has a field, and everything else joins the operands
  of its parts. `Yields` lists these ways, one constructor each, with
  all that the compiler checks on the way. Whatever holds of every
  compiled operand is proved by induction on it.
-/

namespace Listing

/-! ### Results in sequence -/

/-- A computation in two steps succeeds where both steps do. -/
theorem bind_eq_ok {ε α β : Type} {x : Except ε α} {f : α → Except ε β} {b : β} :
    (x >>= f) = .ok b ↔ ∃ a, x = .ok a ∧ f a = .ok b := by
  cases x <;> simp [bind, Except.bind]

/-- A computation in two steps fails where one of the steps does. -/
theorem bind_eq_error {ε α β : Type} {x : Except ε α} {f : α → Except ε β} {e : ε} :
    (x >>= f) = .error e ↔ x = .error e ∨ ∃ a, x = .ok a ∧ f a = .error e := by
  cases x <;> simp [bind, Except.bind]

/-! ### Tracking

    A computation tracks another one strictly if they are the same, and
    leniently if it may also differ where the other one fails. What
    holds of both is proved of both at once. -/

/-- The second computation is the same as the first; a lenient one may differ where the first
one fails. -/
def Tracks {ε α : Type} (lenient : Prop) (x y : Except ε α) : Prop :=
  x = y ∨ lenient ∧ ∃ e, x = .error e

namespace Tracks

variable {ε α β : Type} {lenient : Prop}

theorem refl (x : Except ε α) : Tracks lenient x x := .inl rfl

theorem bind {x y : Except ε α} {f g : α → Except ε β} (h : Tracks lenient x y)
    (hf : ∀ a, Tracks lenient (f a) (g a)) : Tracks lenient (x >>= f) (y >>= g) := by
  rcases h with rfl | ⟨hlenient, e, rfl⟩
  · cases x with
    | error e => exact .refl _
    | ok a => exact hf a
  · exact .inr ⟨hlenient, e, rfl⟩

theorem eq_of_strict {x y : Except ε α} (h : Tracks False x y) : x = y :=
  h.resolve_right fun hlenient => hlenient.1

theorem eq_ok {x y : Except ε α} {a : α} (h : Tracks lenient x y) (hx : x = .ok a) :
    y = .ok a := by
  rcases h with rfl | ⟨_, e, he⟩
  · exact hx
  · rw [he] at hx
    cases hx

end Tracks

/-! ### Joined clauses -/

/-- The clause of two operands of a logical operator. -/
def Connective.join : Connective → Clause → Clause → Clause
  | .and => .and
  | .or => .or

namespace Compiler

/-! ### The derivations -/

/-- `c` turns the expression into the operand, under an odd number of negations if the flag
is set. -/
inductive Yields (c : Compiler) : Expr → Bool → Operand → Prop
  /-- A closed part is its value. -/
  | closed {e : Expr} {v : Value} (hclosed : e.isClosed = true)
      (hv : e.evaluate c.library c.scope = .ok v) : Yields c e false (.constant v)
  /-- A closed part under a negation is a truth value, and the opposite one is meant. -/
  | notClosed {e : Expr} {b : Bool} (hclosed : e.isClosed = true)
      (hv : e.evaluate c.library c.scope = .ok (.boolean b)) :
      Yields c e true (.constant (.boolean !b))
  /-- A chain of members is a field of the catalog. -/
  | field {target : Expr} {name path : String} {f : Field}
      (hopen : (Expr.member target name).isClosed = false)
      (hpath : (Expr.member target name).fieldPath? = some path)
      (hf : c.catalog.lookup path = some f) :
      Yields c (.member target name) false (.field f)
  /-- A field under a negation is a truth value, and has to be false. -/
  | notField {target : Expr} {name path : String} {f : Field} {t : FieldTest}
      (hopen : (Expr.member target name).isClosed = false)
      (hpath : (Expr.member target name).fieldPath? = some path)
      (hf : c.catalog.lookup path = some f) (hboolean : f.type = .boolean)
      (ht : f.flag true = .ok t) :
      Yields c (.member target name) true (.clause (.test t))
  /-- A negation is handed down. -/
  | not {inner : Expr} {negated : Bool} {o : Operand} (hopen : inner.isClosed = false)
      (hinner : Yields c inner (!negated) o) : Yields c (.unary .not inner) negated o
  /-- A logical operator joins the conditions of its sides. -/
  | logic {left right : Expr} {op : Connective} {l r : Operand} {a b : Clause}
      (hopen : (Expr.binary left (.logic op) right).isClosed = false)
      (hleft : Yields c left false l) (hright : Yields c right false r)
      (ha : condition (.logic op) l = .ok a) (hb : condition (.logic op) r = .ok b) :
      Yields c (.binary left (.logic op) right) false (.clause (op.join a b))
  /-- A comparison has a field on its left and a constant on its right. -/
  | compare {left right : Expr} {op : Comparison} {negated : Bool} {f : Field} {v : Value}
      {t : FieldTest} (hopen : (Expr.binary left (.compare op) right).isClosed = false)
      (hleft : Yields c left false (.field f)) (hright : Yields c right false (.constant v))
      (ht : f.comparison (if negated then op.negate else op) v = .ok t) :
      Yields c (.binary left (.compare op) right) negated (.clause (.test t))
  /-- A comparison has a constant on its left and a field on its right. -/
  | compareSwapped {left right : Expr} {op : Comparison} {negated : Bool} {f : Field}
      {v : Value} {t : FieldTest}
      (hopen : (Expr.binary left (.compare op) right).isClosed = false)
      (hleft : Yields c left false (.constant v)) (hright : Yields c right false (.field f))
      (ht : f.comparison (if negated then op.negate else op).swap v = .ok t) :
      Yields c (.binary left (.compare op) right) negated (.clause (.test t))
  /-- A closed list is searched for a field. -/
  | membership {target arg : Expr} {name : String} {negated : Bool} {items : List Value}
      {f : Field} {cl : Clause} (hopen : (Expr.method target name [arg]).isClosed = false)
      (hname : TextMethod.ofName? name = some .contains) (hclosed : target.isClosed = true)
      (hitems : target.evaluate c.library c.scope = .ok (.list items))
      (harg : Yields c arg false (.field f))
      (hcl : items.foldlM (addItem f negated) (.constant negated) = .ok cl) :
      Yields c (.method target name [arg]) negated (.clause cl)
  /-- A field that holds several texts is searched for a constant. -/
  | arrayMethod {target arg : Expr} {name : String} {negated : Bool} {f : Field} {v : Value}
      {t : FieldTest} (hopen : target.isClosed = false)
      (hname : TextMethod.ofName? name = some .contains) (harray : f.type = .array)
      (htarget : Yields c target false (.field f)) (harg : Yields c arg false (.constant v))
      (ht : f.arrayContains v negated = .ok t) :
      Yields c (.method target name [arg]) negated (.clause (.test t))
  /-- A method of a text field has a constant argument. -/
  | textMethod {target arg : Expr} {name : String} {negated : Bool} {m : TextMethod}
      {f : Field} {v : Value} {t : FieldTest} (hopen : target.isClosed = false)
      (hname : TextMethod.ofName? name = some m) (harray : ¬(f.type = .array ∧ m = .contains))
      (htarget : Yields c target false (.field f)) (harg : Yields c arg false (.constant v))
      (ht : f.textMethod m v negated = .ok t) :
      Yields c (.method target name [arg]) negated (.clause (.test t))

variable {c : Compiler}

/-! ### Inversion of the parts of the compiler -/

theorem value_eq_ok {e : Expr} {v : Value} :
    c.value e = .ok v ↔ e.evaluate c.library c.scope = .ok v := by
  unfold value
  split
  · next w hw => simp [hw]
  · next err herr => simp [herr]

theorem operand_of_isClosed {e : Expr} (hclosed : e.isClosed = true) (negated : Bool) :
    c.operand e negated = c.closed e negated := by
  rw [operand.eq_def, if_pos hclosed]

/-- An expression with a path is a chain of members, and so a field. -/
theorem operand_of_fieldPath? {e : Expr} {path : String} (hpath : e.fieldPath? = some path)
    (negated : Bool) : c.operand e negated = c.field e negated := by
  obtain ⟨names, hne, rfl, -⟩ := Expr.fieldPath?_eq_some_iff.mp hpath
  have hopen : ¬(Expr.chain names).isClosed = true :=
    Bool.eq_false_iff.mp (Expr.isClosed_chain names)
  rw [operand.eq_def, if_neg hopen]
  obtain ⟨before, name, rfl⟩ := (List.eq_nil_or_concat names).resolve_left hne
  rw [List.concat_eq_append, Expr.chain_concat]

theorem yields_of_closed {e : Expr} {negated : Bool} {o : Operand} (hclosed : e.isClosed = true)
    (h : c.closed e negated = .ok o) : c.Yields e negated o := by
  unfold closed at h
  obtain ⟨v, hv, h⟩ := bind_eq_ok.mp h
  rw [value_eq_ok] at hv
  split at h
  · cases h; exact .closed hclosed hv
  · cases h; exact .notClosed hclosed hv
  · cases h

theorem yields_of_field {target : Expr} {name : String} {negated : Bool} {o : Operand}
    (hopen : (Expr.member target name).isClosed = false)
    (h : c.field (.member target name) negated = .ok o) :
    c.Yields (.member target name) negated o := by
  unfold field at h
  split at h
  · cases h
  · next path hpath =>
    split at h
    · cases h
    · next f hf =>
      cases negated with
      | false => cases h; exact .field hopen hpath hf
      | true =>
        simp only [if_true] at h
        split at h
        · next hboolean =>
          obtain ⟨t, ht, h⟩ := bind_eq_ok.mp h
          cases h
          exact .notField hopen hpath hf hboolean ht
        · cases h

theorem comparison_eq_ok {op : Comparison} {l r o : Operand} (h : comparison op l r = .ok o) :
    (∃ f v t, l = .field f ∧ r = .constant v ∧ f.comparison op v = .ok t ∧
        o = .clause (.test t)) ∨
      ∃ f v t, l = .constant v ∧ r = .field f ∧ f.comparison op.swap v = .ok t ∧
        o = .clause (.test t) := by
  unfold comparison at h
  split at h
  · obtain ⟨t, ht, h⟩ := bind_eq_ok.mp h
    cases h
    exact .inl ⟨_, _, t, rfl, rfl, ht, rfl⟩
  · obtain ⟨t, ht, h⟩ := bind_eq_ok.mp h
    cases h
    exact .inr ⟨_, _, t, rfl, rfl, ht, rfl⟩
  · cases h

theorem method_eq_ok {m : TextMethod} {name : String} {negated : Bool} {l o : Operand}
    {arg : Except CompileError Operand} (h : method m name negated l arg = .ok o) :
    ∃ f v t, l = .field f ∧ arg = .ok (.constant v) ∧ o = .clause (.test t) ∧
      if f.type = .array ∧ m = .contains then f.arrayContains v negated = .ok t
      else f.textMethod m v negated = .ok t := by
  unfold method at h
  split at h
  · next f =>
    obtain ⟨operand, harg, h⟩ := bind_eq_ok.mp h
    split at h
    · next v =>
      split at h
      · next hc =>
        obtain ⟨t, ht, h⟩ := bind_eq_ok.mp h
        cases h
        exact ⟨f, v, t, rfl, harg, rfl, by rw [if_pos hc]; exact ht⟩
      · next hc =>
        obtain ⟨t, ht, h⟩ := bind_eq_ok.mp h
        cases h
        exact ⟨f, v, t, rfl, harg, rfl, by rw [if_neg hc]; exact ht⟩
    · cases h
  · cases h

theorem membership_eq_ok {negated : Bool} {v : Value} {arg : Except CompileError Operand}
    {o : Operand} (h : membership negated v arg = .ok o) :
    ∃ items f cl, v = .list items ∧ arg = .ok (.field f) ∧ o = .clause cl ∧
      items.foldlM (addItem f negated) (.constant negated) = .ok cl := by
  unfold membership at h
  split at h
  · next items =>
    obtain ⟨operand, harg, h⟩ := bind_eq_ok.mp h
    split at h
    · next f =>
      obtain ⟨cl, hcl, h⟩ := bind_eq_ok.mp h
      cases h
      exact ⟨items, f, cl, rfl, harg, rfl, hcl⟩
    · cases h
  · cases h

/-- An item of a list adds a test of its own to those of the items before it. -/
theorem addItem_eq_ok {f : Field} {negated : Bool} {a b : Clause} {item : Value}
    (h : addItem f negated a item = .ok b) :
    ∃ op comparison t, f.comparison comparison item = .ok t ∧
      b = Connective.join op a (.test t) := by
  unfold addItem at h
  split at h
  · obtain ⟨t, ht, h⟩ := bind_eq_ok.mp h
    cases h
    exact ⟨.and, _, t, ht, rfl⟩
  · obtain ⟨t, ht, h⟩ := bind_eq_ok.mp h
    cases h
    exact ⟨.or, _, t, ht, rfl⟩

/-- The items of a list join one after another; whatever each of them preserves holds in
the end. -/
theorem foldlM_addItem_induction {f : Field} {negated : Bool} {P : Clause → Prop}
    {items : List Value}
    (hstep : ∀ a b, ∀ item ∈ items, P a → addItem f negated a item = .ok b → P b) {a b : Clause}
    (ha : P a) (h : items.foldlM (addItem f negated) a = .ok b) : P b := by
  induction items generalizing a with
  | nil => cases h; exact ha
  | cons item items ih =>
    rw [List.foldlM_cons] at h
    obtain ⟨a', ha', h⟩ := bind_eq_ok.mp h
    refine ih (fun a b i hi => hstep a b i (List.mem_cons_of_mem item hi)) ?_ h
    exact hstep a a' item List.mem_cons_self ha ha'

/-! ### Every operand has a derivation -/

theorem yields_of_operand {e : Expr} {negated : Bool} {o : Operand}
    (h : c.operand e negated = .ok o) : c.Yields e negated o := by
  fun_induction operand c e negated generalizing o with
  | case1 e negated hclosed => exact yields_of_closed hclosed h
  | case2 negated target name hopen => exact yields_of_field (by simpa using hopen) h
  | case3 negated inner hopen ih =>
    exact .not (by simpa [Expr.isClosed] using hopen) (ih h)
  | case5 negated left op right hneg hopen ihleft ihright =>
    obtain ⟨l, hl, h⟩ := bind_eq_ok.mp h
    obtain ⟨a, ha, h⟩ := bind_eq_ok.mp h
    obtain ⟨r, hr, h⟩ := bind_eq_ok.mp h
    obtain ⟨b, hb, h⟩ := bind_eq_ok.mp h
    have ho : o = .clause (op.join a b) := by
      cases op <;> cases h <;> rfl
    rw [Bool.not_eq_true] at hneg
    subst hneg ho
    exact .logic (by simpa using hopen) (ihleft hl) (ihright hr) ha hb
  | case6 negated left op right hopen ihleft ihright =>
    obtain ⟨l, hl, h⟩ := bind_eq_ok.mp h
    obtain ⟨r, hr, h⟩ := bind_eq_ok.mp h
    have hopen' : (Expr.binary left (.compare op) right).isClosed = false := by simpa using hopen
    rcases comparison_eq_ok h with ⟨f, v, t, rfl, rfl, ht, rfl⟩ | ⟨f, v, t, rfl, rfl, ht, rfl⟩
    · exact .compare hopen' (ihleft hl) (ihright hr) ht
    · exact .compareSwapped hopen' (ihleft hl) (ihright hr) ht
  | case9 negated target name arg hclosed hopen hname ih =>
    obtain ⟨v, hv, h⟩ := bind_eq_ok.mp h
    obtain ⟨items, f, cl, rfl, harg, rfl, hcl⟩ := membership_eq_ok h
    exact .membership (by simpa using hopen) hname hclosed (value_eq_ok.mp hv) (ih harg) hcl
  | case11 negated target name arg m hname htarget hopen ihtarget iharg =>
    obtain ⟨l, hl, h⟩ := bind_eq_ok.mp h
    obtain ⟨f, v, t, rfl, harg, rfl, ht⟩ := method_eq_ok h
    have hopen' : target.isClosed = false := by simpa using htarget
    split at ht
    · next hc =>
      obtain ⟨harray, rfl⟩ := hc
      exact .arrayMethod hopen' hname harray (ihtarget hl) (iharg harg) ht
    · next hc => exact .textMethod hopen' hname hc (ihtarget hl) (iharg harg) ht
  | _ => cases h

/-! ### Every derivation is followed -/

theorem operand_of_yields {e : Expr} {negated : Bool} {o : Operand} (h : c.Yields e negated o) :
    c.operand e negated = .ok o := by
  induction h with
  | closed hclosed hv | notClosed hclosed hv =>
    rw [operand_of_isClosed hclosed]
    exact bind_eq_ok.mpr ⟨_, value_eq_ok.mpr hv, rfl⟩
  | field hopen hpath hf =>
    rw [operand.eq_def, if_neg (Bool.eq_false_iff.mp hopen)]
    simp [Compiler.field, hpath, hf]
  | notField hopen hpath hf hboolean ht =>
    rw [operand.eq_def, if_neg (Bool.eq_false_iff.mp hopen)]
    simp [Compiler.field, hpath, hf, hboolean, ht, bind_eq_ok]
  | not hopen _ ih =>
    have hopen' : ¬(Expr.unary .not _).isClosed = true := Bool.eq_false_iff.mp hopen
    rw [operand.eq_def, if_neg hopen']
    exact ih
  | @logic _ _ op _ _ _ _ hopen _ _ ha hb ihleft ihright =>
    rw [operand.eq_def, if_neg (Bool.eq_false_iff.mp hopen)]
    simp only [ihleft, ihright]
    refine bind_eq_ok.mpr ⟨_, rfl, bind_eq_ok.mpr ⟨_, ha, bind_eq_ok.mpr ⟨_, rfl, ?_⟩⟩⟩
    refine bind_eq_ok.mpr ⟨_, hb, ?_⟩
    cases op <;> rfl
  | compare hopen _ _ ht ihleft ihright =>
    rw [operand.eq_def, if_neg (Bool.eq_false_iff.mp hopen)]
    simp only [ihleft, ihright]
    exact bind_eq_ok.mpr ⟨_, rfl, bind_eq_ok.mpr ⟨_, rfl, bind_eq_ok.mpr ⟨_, ht, rfl⟩⟩⟩
  | compareSwapped hopen _ _ ht ihleft ihright =>
    rw [operand.eq_def, if_neg (Bool.eq_false_iff.mp hopen)]
    simp only [ihleft, ihright]
    exact bind_eq_ok.mpr ⟨_, rfl, bind_eq_ok.mpr ⟨_, rfl, bind_eq_ok.mpr ⟨_, ht, rfl⟩⟩⟩
  | membership hopen hname hclosed hitems _ hcl iharg =>
    rw [operand.eq_def, if_neg (Bool.eq_false_iff.mp hopen)]
    simp only [hname, hclosed, if_true, iharg]
    refine bind_eq_ok.mpr ⟨_, value_eq_ok.mpr hitems, ?_⟩
    exact bind_eq_ok.mpr ⟨_, rfl, bind_eq_ok.mpr ⟨_, hcl, rfl⟩⟩
  | @arrayMethod target arg name _ _ _ _ hopen hname harray _ _ ht ihtarget iharg =>
    have hopen' : ¬(Expr.method target name [arg]).isClosed = true := by
      simp [Expr.isClosed, hopen]
    rw [operand.eq_def, if_neg hopen']
    simp only [hname, hopen, ihtarget, iharg]
    refine bind_eq_ok.mpr ⟨_, rfl, bind_eq_ok.mpr ⟨_, rfl, ?_⟩⟩
    simp only [harray, true_and, if_true]
    exact bind_eq_ok.mpr ⟨_, ht, rfl⟩
  | @textMethod target arg name _ _ _ _ _ hopen hname harray _ _ ht ihtarget iharg =>
    have hopen' : ¬(Expr.method target name [arg]).isClosed = true := by
      simp [Expr.isClosed, hopen]
    rw [operand.eq_def, if_neg hopen']
    simp only [hname, hopen, ihtarget, iharg]
    refine bind_eq_ok.mpr ⟨_, rfl, bind_eq_ok.mpr ⟨_, rfl, ?_⟩⟩
    simp only [if_neg harray]
    exact bind_eq_ok.mpr ⟨_, ht, rfl⟩

/-! ### Constants and fields -/

/-- A chain of members with these names names the field. -/
structure Names (c : Compiler) (names : List String) (f : Field) : Prop where
  ne_nil : names ≠ []
  lookup : c.catalog.lookup (".".intercalate names) = some f

theorem isClosed_of_yields {e : Expr} {negated : Bool} {o : Operand} {v : Value}
    (h : c.Yields e negated o) (ho : o = .constant v) : e.isClosed = true := by
  induction h with
  | closed hclosed | notClosed hclosed => exact hclosed
  | not hopen _ ih =>
    have hclosed := ih ho
    rw [hopen] at hclosed
    cases hclosed
  | _ => cases ho

/-- A constant operand is the value of a closed expression. -/
theorem evaluate_of_yields {e : Expr} {v : Value} (h : c.Yields e false (.constant v)) :
    e.isClosed = true ∧ e.evaluate c.library c.scope = .ok v := by
  cases h with
  | closed hclosed hv => exact ⟨hclosed, hv⟩
  | not hopen hinner =>
    have hclosed := isClosed_of_yields hinner rfl
    rw [hopen] at hclosed
    cases hclosed

/-- A field operand is a chain that names the field, under an even number of negations. -/
theorem negations_of_yields {e : Expr} {negated : Bool} {o : Operand} {f : Field}
    (h : c.Yields e negated o) (ho : o = .field f) :
    ∃ names, c.Names names f ∧ Expr.Negations (.chain names) negated e := by
  induction h with
  | field hopen hpath hf =>
    cases ho
    obtain ⟨names, hne, hchain, rfl⟩ := Expr.fieldPath?_eq_some_iff.mp hpath
    rw [hchain]
    exact ⟨names, ⟨hne, hf⟩, .none⟩
  | @not inner negated o hopen hinner ih =>
    obtain ⟨names, hnames, hnegations⟩ := ih ho
    refine ⟨names, hnames, ?_⟩
    rw [← Bool.not_not negated]
    exact .not hnegations
  | _ => cases ho

/-- A field operand is a chain of members that names the field. Only negations may stand before
it, and then the one next to the chain is among them. -/
theorem names_of_yields {e : Expr} {negated : Bool} {o : Operand} {f : Field}
    (h : c.Yields e negated o) (ho : o = .field f) :
    ∃ names, c.Names names f ∧ (e = .chain names ∨
      ∃ inner, e = .unary .not inner ∧ (Expr.unary .not (.chain names)).Occurs e) := by
  obtain ⟨names, hnames, hnegations⟩ := negations_of_yields h ho
  exact ⟨names, hnames, hnegations.eq_or⟩

end Compiler
end Listing
