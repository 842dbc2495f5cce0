import Listing.Proofs.Expr.Occurrence

/-! # Contexts

  A context is an expression with one place left open. It is a list of
  frames, each of them one node with one of its parts left open, from
  the open place outwards. What occurs in an expression stands in a
  context of it, and the other way round.
-/

namespace Listing.Expr

/-! ### Frames -/

/-- One node of an expression with one part left open. -/
inductive Frame
  | member (name : String)
  /-- An argument of a function, with those before and after it. -/
  | argument (function : String) (before after : List Expr)
  /-- What a method is called on. -/
  | receiver (function : String) (args : List Expr)
  /-- An argument of a method, with those before and after it. -/
  | methodArgument (target : Expr) (function : String) (before after : List Expr)
  /-- An item of a list, with those before and after it. -/
  | item (before after : List Expr)
  | leftOperand (op : BinaryOp) (right : Expr)
  | rightOperand (left : Expr) (op : BinaryOp)
  | unary (op : UnaryOp)

/-- The node with the part in its place. -/
def Frame.fill : Frame → Expr → Expr
  | .member name, e => .member e name
  | .argument function before after, e => .call function (before ++ e :: after)
  | .receiver function args, e => .method e function args
  | .methodArgument target function before after, e =>
    .method target function (before ++ e :: after)
  | .item before after, e => .list (before ++ e :: after)
  | .leftOperand op right, e => .binary e op right
  | .rightOperand left op, e => .binary left op e
  | .unary op, e => .unary op e

theorem Frame.mem_parts_fill (frame : Frame) (e : Expr) : e ∈ (frame.fill e).parts := by
  cases frame <;> simp [fill, parts]

/-- Every part of an expression is in a frame of it. -/
theorem exists_frame_of_mem_parts {part whole : Expr} (h : part ∈ whole.parts) :
    ∃ frame : Frame, frame.fill part = whole := by
  cases whole with
  | parameter | constant _ | captured _ => cases h
  | member target name =>
    rw [List.mem_singleton.mp h]
    exact ⟨.member name, rfl⟩
  | call function args =>
    obtain ⟨before, after, rfl⟩ := List.append_of_mem h
    exact ⟨.argument function before after, rfl⟩
  | method target function args =>
    rcases List.mem_cons.mp h with rfl | harg
    · exact ⟨.receiver function args, rfl⟩
    · obtain ⟨before, after, rfl⟩ := List.append_of_mem harg
      exact ⟨.methodArgument target function before after, rfl⟩
  | list items =>
    obtain ⟨before, after, rfl⟩ := List.append_of_mem h
    exact ⟨.item before after, rfl⟩
  | binary left op right =>
    rcases List.mem_cons.mp h with rfl | hright
    · exact ⟨.leftOperand op right, rfl⟩
    · rw [List.mem_singleton.mp hright]
      exact ⟨.rightOperand left op, rfl⟩
  | unary op operand =>
    rw [List.mem_singleton.mp h]
    exact ⟨.unary op, rfl⟩

/-! ### Contexts -/

/-- An expression with one open place, as its frames from the inside out. -/
abbrev Context := List Frame

/-- The context with the expression in its open place. -/
def Context.fill : Context → Expr → Expr
  | [], e => e
  | frame :: outer, e => Context.fill outer (frame.fill e)

theorem Context.fill_append (inner outer : Context) (e : Expr) :
    Context.fill (inner ++ outer) e = Context.fill outer (Context.fill inner e) := by
  induction inner generalizing e with
  | nil => rfl
  | cons frame inner ih => exact ih (frame.fill e)

theorem Context.occurs_fill (k : Context) (e : Expr) : e.Occurs (k.fill e) := by
  induction k generalizing e with
  | nil => exact .here
  | cons frame outer ih =>
    have hnode : e.Occurs (frame.fill e) := .inside (frame.mem_parts_fill e) .here
    exact hnode.trans (ih (frame.fill e))

/-- An expression occurs where a context has it in its open place. -/
theorem occurs_iff_exists_context {e whole : Expr} :
    e.Occurs whole ↔ ∃ k : Context, k.fill e = whole := by
  constructor
  · intro h
    induction h with
    | here => exact ⟨[], rfl⟩
    | inside hpart _ ih =>
      -- The part is in the outermost frame, so that frame comes last.
      obtain ⟨inner, rfl⟩ := ih
      obtain ⟨frame, rfl⟩ := exists_frame_of_mem_parts hpart
      exact ⟨inner ++ [frame], Context.fill_append inner [frame] e⟩
  · rintro ⟨k, rfl⟩
    exact k.occurs_fill e

end Listing.Expr
