import Listing.Proofs.Compile.Membership
import Listing.Proofs.Compile.Support

/-! # Methods of fields and of constants

  A method that is called on a field becomes a test, one that is called
  on a closed part is evaluated by the function library. The names of
  methods are read in two ways, then, and the ways agree: what may be
  called on a field may be called on a constant in its place, and the
  other way round.
-/

namespace Listing

/-! ### Built-in functions with truth values -/

namespace TextMethod

/-- Without arguments the function of a method fails, and says which method it is. -/
theorem function_nil (m : TextMethod) (scope : Scope) :
    m.function scope [] = .error (Callable.wrongCount m.name 2 []) := by
  cases m <;> rfl

theorem function_injective {m n : TextMethod} (h : m.function = n.function) : m = n := by
  have hfailure := function_nil m ⟨.empty, Scenario.noon⟩
  rw [h, function_nil] at hfailure
  have hname : n.name = m.name := by simpa [Callable.wrongCount] using hfailure
  revert hname
  cases m <;> cases n <;> decide

theorem exists_function_texts (m : TextMethod) (scope : Scope) (s t : String) :
    ∃ b, m.function scope [.string s, .string t] = .ok (.boolean b) := by
  cases m <;> exact ⟨_, rfl⟩

end TextMethod

namespace Library

open Callable

/-- Of the built-in functions only the methods of texts have truth values as their results. -/
theorem textMethod_of_mem_builtin : ∀ entry ∈ builtin.table.entries, ∀ scope args b,
    entry.2 scope args = .ok (.boolean b) →
      ∃ m : TextMethod, entry = (Text.lower m.name, m.function) := by
  have hother {key : String} {f : Callable} {type : TypeTag} (hf : f.Computes type)
      (htype : type ≠ .boolean) (scope : Scope) (args : List Value) (b : Bool)
      (h : f scope args = .ok (.boolean b)) :
      ∃ m : TextMethod, (key, f) = (Text.lower m.name, m.function) :=
    absurd (hf.type_eq scope args _ h).symm htype
  have hstring : TypeTag.string ≠ .boolean := by decide
  have hduration : TypeTag.duration ≠ .boolean := by decide
  have htimestamp : TypeTag.timestamp ≠ .boolean := by decide
  simp only [builtin, List.forall_mem_cons]
  refine ⟨hother (computes_changing _ _) hstring, hother (computes_changing _ _) hstring,
    hother (computes_changing _ _) hstring, hother computes_concat hstring,
    fun _ _ _ _ => ⟨.startsWith, rfl⟩, fun _ _ _ _ => ⟨.endsWith, rfl⟩,
    fun _ _ _ _ => ⟨.contains, rfl⟩, ?_, hother (computes_fromUnit _) hduration,
    hother (computes_fromUnit _) hduration, hother (computes_fromUnit _) hduration,
    hother (computes_fromUnit _) hduration, hother (computes_addUnit _) htimestamp,
    hother (computes_addUnit _) htimestamp, hother (computes_addUnit _) htimestamp,
    hother (computes_addUnit _) htimestamp, fun _ hmem => absurd hmem List.not_mem_nil⟩
  intro scope args b h
  cases type_of_utcNow h

/-- A call with a truth value as its result is a call of a method of texts. -/
theorem exists_ofName?_of_call {name : String} {scope : Scope} {args : List Value} {b : Bool}
    (h : builtin.call scope name args = .ok (.boolean b)) :
    ∃ m, TextMethod.ofName? name = some m ∧ builtin.find? name = some m.function := by
  unfold call at h
  cases hf : builtin.find? name with
  | none =>
    rw [hf] at h
    cases h
  | some f =>
    rw [hf] at h
    obtain ⟨m, hm⟩ := textMethod_of_mem_builtin _ (Table.mem_of_get? hf) scope args b h
    obtain ⟨hname, rfl⟩ := Prod.mk.inj hm
    exact ⟨m, TextMethod.ofName?_eq_some_iff_lower.mpr hname, rfl⟩

/-- A library finds the function of a method under the spellings of the method. -/
theorem find?_builtin_eq_some_iff {name : String} {m : TextMethod} :
    builtin.find? name = some m.function ↔ TextMethod.ofName? name = some m := by
  constructor
  · intro h
    have hcall (args : List Value) : builtin.call ⟨.empty, Scenario.noon⟩ name args =
        m.function ⟨.empty, Scenario.noon⟩ args := by rw [call, h]
    obtain ⟨b, hb⟩ := m.exists_function_texts ⟨.empty, Scenario.noon⟩ "" ""
    obtain ⟨n, hn, hfind⟩ := exists_ofName?_of_call ((hcall _).trans hb)
    rw [h, Option.some_inj] at hfind
    rw [TextMethod.function_injective hfind, hn]
  · intro h
    rw [← TextMethod.builtin_find?_name, find?, TextMethod.ofName?_eq_some_iff_lower.mp h]
    rfl

/-- What a call under the name of a method comes to. -/
theorem call_of_ofName? {name : String} {m : TextMethod} (h : TextMethod.ofName? name = some m)
    (scope : Scope) (args : List Value) : builtin.call scope name args = m.function scope args := by
  rw [call, find?_builtin_eq_some_iff.mpr h]

/-- A call on two texts has a truth value if it is that of a method. -/
theorem exists_call_texts_iff {name : String} {scope : Scope} {s t : String} :
    (∃ b, builtin.call scope name [.string s, .string t] = .ok (.boolean b)) ↔
      ∃ m, TextMethod.ofName? name = some m := by
  constructor
  · rintro ⟨b, h⟩
    obtain ⟨m, hm, -⟩ := exists_ofName?_of_call h
    exact ⟨m, hm⟩
  · rintro ⟨m, hm⟩
    rw [call_of_ofName? hm]
    exact m.exists_function_texts scope s t

/-- A call on a list has a truth value if it is that of a search. -/
theorem exists_call_list_iff {name : String} {scope : Scope} {items : List Value} {w : Value} :
    (∃ b, builtin.call scope name [.list items, w] = .ok (.boolean b)) ↔
      TextMethod.ofName? name = some .contains := by
  constructor
  · rintro ⟨b, h⟩
    obtain ⟨m, hm, -⟩ := exists_ofName?_of_call h
    rw [call_of_ofName? hm] at h
    cases m with
    | contains => exact hm
    | startsWith | endsWith => cases h
  · intro hm
    rw [call_of_ofName? hm]
    exact ⟨_, rfl⟩

end Library

namespace Compiler

variable {c : Compiler} {x name : String} {text arg : Expr} {v w : Value}

/-! ### Methods as predicates -/

/-- The compiler takes the expression for a predicate. -/
def Accepts (c : Compiler) (x : String) (e : Expr) : Prop := ∃ result, c.compile ⟨x, e⟩ = .ok result

/-- A method of constants has to have a truth value. -/
theorem accepts_method_of_isClosed (hlib : c.library = .builtin) (htext : text.isClosed = true)
    (hv : text.evaluate c.library c.scope = .ok v) (harg : arg.isClosed = true)
    (hw : arg.evaluate c.library c.scope = .ok w) :
    c.Accepts x (.method text name [arg]) ↔
      ∃ b, Library.builtin.call c.scope name [v, w] = .ok (.boolean b) := by
  have hclosed : (Expr.method text name [arg]).isClosed = true := by
    simp [Expr.isClosed, Expr.allClosed, htext, harg]
  have hvalue : (Expr.method text name [arg]).evaluate c.library c.scope =
      Library.builtin.call c.scope name [v, w] := by
    rw [Expr.evaluate, Expr.evaluateAll, Expr.evaluateAll, hv, hw, hlib]
    rfl
  simp only [Accepts, compile_eq_ok_iff, reduces_of_isClosed hclosed, hvalue]
  constructor
  · rintro ⟨_, _, ⟨b, hb, -⟩, -⟩
    exact ⟨b, hb⟩
  · rintro ⟨b, hb⟩
    exact ⟨_, _, ⟨b, hb, rfl⟩, rfl⟩

/-- A method of a field with a constant argument. -/
theorem operand_method {a : Expr} {f : Field} (ha : c.operand a false = .ok (.field f))
    (hopen : ¬a.isClosed = true) (hw : c.operand arg false = .ok (.constant w)) :
    c.operand (.method a name [arg]) false =
      (match TextMethod.ofName? name with
      | none => .error (.unsupported (.method name) .someField)
      | some m => method m name false (.field f) (.ok (.constant w))) := by
  have hopen' : ¬(Expr.method a name [arg]).isClosed = true := by
    simp [Expr.isClosed, hopen]
  rw [operand.eq_def, if_neg hopen']
  simp only [if_neg hopen, ha, hw]
  rfl

/-- A method of a field has to be one of texts, and the filter has to have a test for it. -/
theorem accepts_method_of_field {a : Expr} {path : String} {f : Field}
    (hpath : a.fieldPath? = some path) (hf : c.catalog.lookup path = some f)
    (harg : arg.isClosed = true) (hw : arg.evaluate c.library c.scope = .ok w) :
    c.Accepts x (.method a name [arg]) ↔
      ∃ m t, TextMethod.ofName? name = some m ∧
        if f.type = .array ∧ m = .contains then f.arrayContains w false = .ok t
        else f.textMethod m w false = .ok t := by
  have hopen : ¬a.isClosed = true := by
    intro hclosed
    rw [Expr.fieldPath?_of_isClosed hclosed] at hpath
    cases hpath
  have hconstant : c.operand arg false = .ok (.constant w) := by
    rw [operand_of_isClosed harg, closed, value_eq_ok.mpr hw]
    rfl
  simp only [Accepts, compile_eq_ok_iff, Reduces,
    operand_method (operand_of_lookup hpath hf) hopen hconstant]
  constructor
  · rintro ⟨_, _, ⟨o, ho, -⟩, -⟩
    cases hname : TextMethod.ofName? name with
    | none =>
      rw [hname] at ho
      cases ho
    | some m =>
      rw [hname] at ho
      obtain ⟨g, u, t, hg, hu, -, ht⟩ := method_eq_ok ho
      cases hg
      cases hu
      exact ⟨m, t, rfl, ht⟩
  · rintro ⟨m, t, hname, ht⟩
    refine ⟨_, _, ⟨.clause (.test t), ?_, rfl⟩, rfl⟩
    rw [hname]
    show (if f.type = .array ∧ m = .contains then _ else _) = _
    split at ht
    · next harray =>
      rw [if_pos harray, ht]
      rfl
    · next harray =>
      rw [if_neg harray, ht]
      rfl

section

variable {a : Expr} {path t : String} {f : Field} (hpath : a.fieldPath? = some path)
  (hf : c.catalog.lookup path = some f) (harg : arg.isClosed = true)
  (ht : arg.evaluate c.library c.scope = .ok (.string t))
include hpath hf harg ht

/-- Every method of texts may be called on a text. -/
theorem accepts_method_of_text (htype : f.type = .string) :
    c.Accepts x (.method a name [arg]) ↔ ∃ m, TextMethod.ofName? name = some m := by
  rw [accepts_method_of_field hpath hf harg ht]
  have harray (m : TextMethod) : ¬(f.type = .array ∧ m = .contains) := by simp [htype]
  simp only [harray, if_false]
  constructor
  · rintro ⟨m, _, hm, -⟩
    exact ⟨m, hm⟩
  · rintro ⟨m, hm⟩
    have hop : (m.operator? false).isSome := by cases m <;> rfl
    have hstring : (Value.string t).type = .string := rfl
    obtain ⟨test, htest⟩ := Field.exists_textMethod_iff.mpr ⟨hstring, htype, hop⟩
    exact ⟨m, test, hm, htest⟩

/-- Of the methods of texts only the search may be called on several texts. -/
theorem accepts_method_of_array (htype : f.type = .array) :
    c.Accepts x (.method a name [arg]) ↔ TextMethod.ofName? name = some .contains := by
  rw [accepts_method_of_field hpath hf harg ht]
  constructor
  · rintro ⟨m, test, hm, htest⟩
    split at htest
    · next hsearch => rw [hm, hsearch.2]
    · obtain ⟨-, hstring, -⟩ := Field.exists_textMethod_iff.mp ⟨test, htest⟩
      rw [htype] at hstring
      cases hstring
  · intro hm
    have hstring : (Value.string t).type = .string := rfl
    obtain ⟨test, htest⟩ := Field.exists_arrayContains_iff.mpr ⟨hstring, htype⟩
    exact ⟨.contains, test, hm, by rwa [if_pos ⟨htype, rfl⟩]⟩

end

/-! ### Spellings -/

/-- A name is one of a method of texts for the compiler exactly if the built-in functions have the
function of this method under it, whatever characters it is written in. So the spellings that a
method may have on a field are those that it may have on a constant: of a text, where each method
has a test, and of several texts, which can be searched and nothing else. -/
theorem method_spellings (name : String) :
    (∀ m, TextMethod.ofName? name = some m ↔ Library.builtin.find? name = some m.function) ∧
    ∀ (c : Compiler) (x : String) (receiver a arg : Expr) (path t : String) (f : Field),
      c.library = .builtin → receiver.isClosed = true →
      a.fieldPath? = some path → c.catalog.lookup path = some f →
      arg.isClosed = true → arg.evaluate c.library c.scope = .ok (.string t) →
      (∀ s, receiver.evaluate c.library c.scope = .ok (.string s) → f.type = .string →
        (c.Accepts x (.method receiver name [arg]) ↔ ∃ m, TextMethod.ofName? name = some m) ∧
        (c.Accepts x (.method a name [arg]) ↔ ∃ m, TextMethod.ofName? name = some m)) ∧
      ∀ items, receiver.evaluate c.library c.scope = .ok (.list items) → f.type = .array →
        (c.Accepts x (.method receiver name [arg]) ↔
          TextMethod.ofName? name = some .contains) ∧
        (c.Accepts x (.method a name [arg]) ↔ TextMethod.ofName? name = some .contains) := by
  refine ⟨fun m => Library.find?_builtin_eq_some_iff.symm, ?_⟩
  intro c x receiver a arg path t f hlib hreceiver hpath hf harg ht
  constructor
  · intro s hs htype
    rw [accepts_method_of_isClosed hlib hreceiver hs harg ht]
    exact ⟨Library.exists_call_texts_iff, accepts_method_of_text hpath hf harg ht htype⟩
  · intro items hitems htype
    rw [accepts_method_of_isClosed hlib hreceiver hitems harg ht]
    exact ⟨Library.exists_call_list_iff, accepts_method_of_array hpath hf harg ht htype⟩

/-- Letters of both sizes may be mixed, on a list of texts and on the partitions of a session. -/
theorem method_spellings_of_partitions :
    let c := Scenario.compilerAtNoon .session
    let search (e : Expr) : Expr := .method e "cOnTaInS" [.constant (.string "a")]
    TextMethod.ofName? "cOnTaInS" = some .contains ∧
      c.Accepts "x" (search (.list [.constant (.string "a"), .constant (.string "b")])) ∧
      c.Accepts "x" (search (.member .parameter "PartitionIds")) := by
  intro c search
  have hname : TextMethod.ofName? "cOnTaInS" = some .contains := rfl
  obtain ⟨hlist, hfield⟩ := ((method_spellings "cOnTaInS").2 c "x"
    (.list [.constant (.string "a"), .constant (.string "b")]) (.member .parameter "PartitionIds")
    (.constant (.string "a")) "PartitionIds" "a" ⟨⟨.session, .summary, 11⟩, .array⟩
    rfl rfl rfl rfl rfl rfl).2 [.string "a", .string "b"] rfl rfl
  exact ⟨hname, hlist.mpr hname, hfield.mpr hname⟩

/-- A long s (U+017F) and a dotted capital I (U+0130) are no letters of a method, though the one
has the capital form of an s and the other begins with an i as a small letter. -/
example :
    TextMethod.ofName? "\u017ftartsWith" = none ∧
      (Library.builtin.find? "\u017ftartsWith").isNone = true ∧
      TextMethod.ofName? "STARTSW\u0130TH" = none ∧
      (Library.builtin.find? "STARTSW\u0130TH").isNone = true := by
  decide +kernel

end Compiler
end Listing
