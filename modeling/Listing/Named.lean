/-! # Named alternatives

  An enumeration whose members have distinct names can be read back
  from them: `ofName?` finds the one member with a given name.
-/

namespace Listing

/-- Where names are distinct, a search by name has one result. -/
theorem find?_of_distinct {α : Type} {name : α → String} {l : List α} (hd : (l.map name).Nodup)
    {a : α} (ha : a ∈ l) {p : α → Bool} (hp : ∀ b, p b = true ↔ name b = name a) :
    l.find? p = some a := by
  induction l with
  | nil => cases ha
  | cons b l ih =>
    rw [List.map_cons, List.nodup_cons] at hd
    rcases List.mem_cons.1 ha with rfl | ha'
    · rw [List.find?_cons_of_pos ((hp a).mpr rfl)]
    · have hne : name b ≠ name a := fun h => hd.1 (h ▸ List.mem_map_of_mem ha')
      rw [List.find?_cons_of_neg (mt (hp b).mp hne), ih hd.2 ha']

/-- A finite type whose members carry distinct names. -/
class Named (α : Type) where
  /-- Every member, in order of declaration. -/
  members : List α
  /-- The name of a member. -/
  name : α → String
  /-- No member is left out. -/
  complete : ∀ a : α, a ∈ members
  /-- No two members share a name. -/
  distinct : (members.map name).Nodup

namespace Named

variable {α : Type} [Named α]

/-- The member called `s`. -/
def ofName? (s : String) : Option α := (members (α := α)).find? (name · == s)

/-- A name leads back to its member. -/
@[simp] theorem ofName?_name (a : α) : ofName? (name a) = some a :=
  find?_of_distinct distinct (complete a) fun _ => beq_iff_eq

end Named
end Listing
