import Listing.Proofs.Library.Spelling
import Listing.Proofs.Text.SmallForm

/-! # Registrations

  Spellings with one small form are one name. Whatever is registered, in
  whatever order, a name stands for the function that was registered
  last under one of its spellings, or else for the one it had before.
  All of this rests on an invariant: the names of a library are their
  own small forms, so that a name is found where it was put.
-/

namespace Listing.Library

variable {lib : Library} {regs : List (String × Callable)} {name key : String} {f : Callable}

/-- The library after a sequence of registrations. -/
def registerAll (lib : Library) (regs : List (String × Callable)) : Library :=
  regs.foldl (fun lib reg => lib.register reg.1 reg.2) lib

/-! ### Names in small letters -/

/-- All names are written in small letters. -/
def Normalized (lib : Library) : Prop := ∀ key ∈ lib.names, Text.lower key = key

theorem normalized_builtin : builtin.Normalized := by
  have hnames : ∀ key ∈ builtin.names,
      key.toList.all (·.toNat < 128) = true ∧ Text.lowerAscii key = key := by
    decide +kernel
  intro key hkey
  obtain ⟨hletters, hlower⟩ := hnames key hkey
  have hascii : ∀ c ∈ key.toList, c.toNat < 128 := by simpa using hletters
  rw [Text.lower_of_ascii hascii, hlower]

theorem Normalized.register (h : lib.Normalized) (name : String) (f : Callable) :
    (lib.register name f).Normalized := by
  intro key hkey
  rcases mem_names_register.mp hkey with rfl | hkey
  · exact Text.lower_lower name
  · exact h key hkey

theorem Normalized.registerAll (h : lib.Normalized) (regs : List (String × Callable)) :
    (lib.registerAll regs).Normalized := by
  induction regs generalizing lib with
  | nil => exact h
  | cons reg regs ih => exact ih (h.register reg.1 reg.2)

theorem Normalized.lower_eq (h : lib.Normalized) (hentry : (key, f) ∈ lib.table.entries) :
    Text.lower key = key :=
  h key (List.mem_map_of_mem hentry)

/-- The names are the small forms of the names. -/
theorem Normalized.mem_names_iff (h : lib.Normalized) :
    key ∈ lib.names ↔ ∃ entry ∈ lib.table.entries, Text.lower entry.1 = key := by
  constructor
  · intro hkey
    obtain ⟨entry, hentry, rfl⟩ := List.mem_map.mp hkey
    exact ⟨entry, hentry, h.lower_eq hentry⟩
  · rintro ⟨entry, hentry, rfl⟩
    rw [h.lower_eq hentry]
    exact List.mem_map_of_mem hentry

theorem Normalized.find?_of_mem (h : lib.Normalized) (hentry : (key, f) ∈ lib.table.entries)
    (hname : Text.lower key = Text.lower name) : lib.find? name = some f := by
  rw [find?, ← hname, h.lower_eq hentry]
  exact Table.get?_of_mem hentry

/-! ### Names of a library -/

theorem mem_names_registerAll :
    key ∈ (lib.registerAll regs).names ↔
      key ∈ lib.names ∨ ∃ reg ∈ regs, Text.lower reg.1 = key := by
  induction regs generalizing lib with
  | nil => simp [registerAll]
  | cons reg regs ih =>
    show key ∈ ((lib.register reg.1 reg.2).registerAll regs).names ↔ _
    rw [ih, mem_names_register]
    simp only [List.mem_cons, exists_eq_or_imp, eq_comm (a := key)]
    rw [or_assoc, or_left_comm]

theorem Normalized.contains_of_mem (h : lib.Normalized) (hkey : key ∈ lib.names) :
    lib.contains key = true := by
  rwa [contains_iff, h key hkey]

/-- Another function under a name of the library makes no other name. -/
theorem Normalized.names_register (h : lib.Normalized) (hkey : key ∈ lib.names) (f : Callable) :
    (lib.register key f).names = lib.names := by
  rw [← h key hkey] at hkey
  exact Table.keys_insert_of_mem hkey f

theorem Normalized.find?_register (h : lib.Normalized) (hkey : key ∈ lib.names) (f : Callable)
    (name : String) : (lib.register key f).find? name =
      if Text.lower name = key then some f else lib.find? name := by
  rw [Library.find?_register, h key hkey]

/-! ### The last registration -/

/-- What a name resolves to once `regs` have been registered in `lib`. -/
inductive Resolves (lib : Library) (regs : List (String × Callable)) (name : String) :
    Option Callable → Prop
  /-- The last of the registrations under a spelling of the name. -/
  | registered {before after : List (String × Callable)} {spelling : String} {f : Callable}
      (hregs : regs = before ++ (spelling, f) :: after)
      (hspelling : Text.lower spelling = Text.lower name)
      (hafter : ∀ reg ∈ after, Text.lower reg.1 ≠ Text.lower name) :
      Resolves lib regs name (some f)
  /-- Without one, what the library had. -/
  | kept {key : String} {f : Callable}
      (hregs : ∀ reg ∈ regs, Text.lower reg.1 ≠ Text.lower name)
      (hentry : (key, f) ∈ lib.table.entries) (hkey : Text.lower key = Text.lower name) :
      Resolves lib regs name (some f)
  /-- Otherwise nothing. -/
  | unknown (hregs : ∀ reg ∈ regs, Text.lower reg.1 ≠ Text.lower name)
      (hentries : ∀ entry ∈ lib.table.entries, Text.lower entry.1 ≠ Text.lower name) :
      Resolves lib regs name none

theorem exists_last_registration (h : ∃ reg ∈ regs, Text.lower reg.1 = Text.lower name) :
    ∃ before spelling f after, regs = before ++ (spelling, f) :: after ∧
      Text.lower spelling = Text.lower name ∧
      ∀ reg ∈ after, Text.lower reg.1 ≠ Text.lower name := by
  induction regs with
  | nil => simp at h
  | cons reg regs ih =>
    -- The first registration counts only if no later one does.
    by_cases hlater : ∃ reg ∈ regs, Text.lower reg.1 = Text.lower name
    · obtain ⟨before, spelling, f, after, rfl, hspelling, hafter⟩ := ih hlater
      exact ⟨reg :: before, spelling, f, after, rfl, hspelling, hafter⟩
    · have hreg : Text.lower reg.1 = Text.lower name := by simpa [hlater] using h
      exact ⟨[], reg.1, reg.2, regs, rfl, hreg, fun later hmem heq => hlater ⟨later, hmem, heq⟩⟩

theorem exists_resolves (lib : Library) (regs : List (String × Callable)) (name : String) :
    ∃ found, Resolves lib regs name found := by
  by_cases hregs : ∃ reg ∈ regs, Text.lower reg.1 = Text.lower name
  · obtain ⟨before, spelling, f, after, heq, hspelling, hafter⟩ := exists_last_registration hregs
    exact ⟨some f, .registered heq hspelling hafter⟩
  · have hnone : ∀ reg ∈ regs, Text.lower reg.1 ≠ Text.lower name := fun reg hreg heq =>
      hregs ⟨reg, hreg, heq⟩
    by_cases hentries : ∃ entry ∈ lib.table.entries, Text.lower entry.1 = Text.lower name
    · obtain ⟨⟨key, f⟩, hentry, hkey⟩ := hentries
      exact ⟨some f, .kept hnone hentry hkey⟩
    · exact ⟨none, .unknown hnone fun entry hentry heq => hentries ⟨entry, hentry, heq⟩⟩

/-! ### Look-up -/

theorem find?_register_of_ne {other : String} (h : Text.lower other ≠ Text.lower name)
    (f : Callable) : (lib.register name f).find? other = lib.find? other := by
  rw [find?_register, if_neg h]

/-- Registrations under other names leave a name alone. -/
theorem find?_registerAll_of_ne (h : ∀ reg ∈ regs, Text.lower reg.1 ≠ Text.lower name) :
    (lib.registerAll regs).find? name = lib.find? name := by
  induction regs generalizing lib with
  | nil => rfl
  | cons reg regs ih =>
    obtain ⟨hreg, hregs⟩ := List.forall_mem_cons.mp h
    calc (lib.registerAll (reg :: regs)).find? name
        = (lib.register reg.1 reg.2).find? name := ih hregs
      _ = lib.find? name := find?_register_of_ne hreg.symm reg.2

theorem find?_registerAll_of_last {before after : List (String × Callable)} {spelling : String}
    (hspelling : Text.lower spelling = Text.lower name)
    (hafter : ∀ reg ∈ after, Text.lower reg.1 ≠ Text.lower name) :
    (lib.registerAll (before ++ (spelling, f) :: after)).find? name = some f := by
  calc (lib.registerAll (before ++ (spelling, f) :: after)).find? name
      = (((lib.registerAll before).register spelling f).registerAll after).find? name := by
        rw [registerAll, List.foldl_append]
        rfl
    _ = ((lib.registerAll before).register spelling f).find? name :=
        find?_registerAll_of_ne hafter
    _ = some f := by rw [find?_register, if_pos hspelling.symm]

theorem find?_of_resolves (hlib : lib.Normalized) {found : Option Callable}
    (h : Resolves lib regs name found) : (lib.registerAll regs).find? name = found := by
  cases h with
  | registered hregs hspelling hafter =>
    rw [hregs]
    exact find?_registerAll_of_last hspelling hafter
  | kept hregs hentry hkey =>
    rw [find?_registerAll_of_ne hregs]
    exact hlib.find?_of_mem hentry hkey
  | unknown hregs hentries =>
    rw [find?_registerAll_of_ne hregs]
    refine Option.not_isSome_iff_eq_none.mp fun hfound => ?_
    obtain ⟨entry, hentry, hkey⟩ := hlib.mem_names_iff.mp (contains_iff.mp hfound)
    exact hentries entry hentry hkey

/-- A name has exactly what it stands for. -/
theorem find?_registerAll_iff (hlib : lib.Normalized) {found : Option Callable} :
    (lib.registerAll regs).find? name = found ↔ Resolves lib regs name found := by
  constructor
  · rintro rfl
    obtain ⟨found, h⟩ := exists_resolves lib regs name
    rwa [find?_of_resolves hlib h]
  · exact find?_of_resolves hlib

/-! ### Calls -/

theorem call_register_of_ne {other : String} (h : Text.lower other ≠ Text.lower name)
    (f : Callable) (scope : Scope) (args : List Value) :
    (lib.register name f).call scope other args = lib.call scope other args := by
  rw [call, call, find?_register_of_ne h f]

theorem call_of_resolves (hlib : lib.Normalized) {found : Option Callable} :
    Resolves lib regs name found → ∀ scope args, (lib.registerAll regs).call scope name args =
      match found with
      | some f => f scope args
      | none => .error (.unknownFunction name) := by
  intro h scope args
  have hfind := find?_of_resolves hlib h
  cases found with
  | some f => rw [call, hfind]
  | none => rw [call, hfind]

/-- After any registrations a call under a name runs the function that was registered last under
a name with the same small form, or else the built-in one with this form, and if there is none it
fails and shows the name as it was written. Another registration changes nothing for names with
other small forms. The names are the small forms of all that was registered and of the built-in
functions, each once; every one of them has a function, and whoever registers it again replaces
this function and no other. -/
theorem dispatch_after_registrations (regs : List (String × Callable)) :
    let lib := builtin.registerAll regs
    (∀ name found, lib.find? name = found ↔ Resolves builtin regs name found) ∧
    (∀ name found, Resolves builtin regs name found → ∀ scope args,
      lib.call scope name args =
        match found with
        | some f => f scope args
        | none => .error (.unknownFunction name)) ∧
    (∀ name f other, Text.lower other ≠ Text.lower name →
      (lib.register name f).find? other = lib.find? other ∧
        ∀ scope args, (lib.register name f).call scope other args = lib.call scope other args) ∧
    lib.names.Nodup ∧
    (∀ key, key ∈ lib.names ↔
      ∃ entry ∈ builtin.table.entries ++ regs, Text.lower entry.1 = key) ∧
    ∀ key ∈ lib.names, lib.contains key = true ∧ ∀ f,
      (lib.register key f).names = lib.names ∧
        ∀ name, (lib.register key f).find? name =
          if Text.lower name = key then some f else lib.find? name := by
  intro lib
  have hlib : lib.Normalized := normalized_builtin.registerAll regs
  refine ⟨fun name found => find?_registerAll_iff normalized_builtin,
    fun name found => call_of_resolves normalized_builtin, ?_, lib.table.nodup_keys, ?_, ?_⟩
  · intro name f other hother
    exact ⟨find?_register_of_ne hother f, call_register_of_ne hother f⟩
  · intro key
    rw [mem_names_registerAll, normalized_builtin.mem_names_iff]
    simp only [List.mem_append, or_and_right, exists_or]
  · intro key hkey
    exact ⟨hlib.contains_of_mem hkey, fun f =>
      ⟨hlib.names_register hkey f, hlib.find?_register hkey f⟩⟩

/-- In capital letters a Greek word ends in the sigma of all other places, so the last two names
are one; the text in small letters that ends in this sigma is another. -/
theorem dispatch_after_registrations_of_streets :
    let answer (n : Int64) : Callable := fun _ _ => .ok (.int n)
    let regs := [("Concat", answer 1), ("ΟΔΟΣ", answer 2), ("οδοΣ", answer 3)]
    let lib := builtin.registerAll regs
    (∀ scope args, lib.call scope "Οδος" args = .ok (.int 3)) ∧
      (∀ scope args, lib.call scope "οδοσ" args = .error (.unknownFunction "οδοσ")) ∧
      (∀ scope args, lib.call scope "EndsWith" args = Callable.endsWith scope args) ∧
      (∀ scope args, (lib.register "οδοσ" (answer 4)).call scope "ΟΔΟΣ" args =
        lib.call scope "ΟΔΟΣ" args) ∧
      "οδος" ∈ lib.names ∧ (lib.register "οδος" (answer 5)).names = lib.names := by
  intro answer regs lib
  obtain ⟨-, hcall, hother, -, hnames, hlisted⟩ := dispatch_after_registrations regs
  have hspellings : ∀ name ∈ ["οδοσ", "EndsWith"], ∀ spelling ∈ ["Concat", "ΟΔΟΣ", "οδοΣ"],
      Text.lower spelling ≠ Text.lower name := by
    decide +kernel
  have hregs (name : String) (hname : name ∈ ["οδοσ", "EndsWith"]) :
      ∀ reg ∈ regs, Text.lower reg.1 ≠ Text.lower name := fun reg hreg =>
    hspellings name hname reg.1 (List.mem_map_of_mem hreg)
  have hlast : Resolves builtin regs "Οδος" (some (answer 3)) := by
    have hsplit : regs = regs.take 2 ++ ("οδοΣ", answer 3) :: [] := rfl
    exact .registered hsplit (by decide +kernel) (List.forall_mem_nil _)
  have hunknown : Resolves builtin regs "οδοσ" none := by
    refine .unknown (hregs _ (.head _)) fun entry hentry heq => ?_
    have hkey : entry.1 ∈ builtin.names := List.mem_map_of_mem hentry
    have hforms : Text.lower "οδοσ" ∉ builtin.names := by decide +kernel
    rw [normalized_builtin _ hkey] at heq
    exact hforms (heq ▸ hkey)
  have hkept : Resolves builtin regs "EndsWith" (some Callable.endsWith) := by
    have hentry : ("endswith", Callable.endsWith) ∈ builtin.table.entries := by simp [builtin]
    exact .kept (hregs _ (.tail _ (.head _))) hentry (by decide +kernel)
  have hstreet : "οδος" ∈ lib.names :=
    (hnames "οδος").mpr ⟨("οδοΣ", answer 3), by simp [regs], by decide +kernel⟩
  exact ⟨hcall _ _ hlast, hcall _ _ hunknown, hcall _ _ hkept,
    (hother "οδοσ" (answer 4) "ΟΔΟΣ" (by decide +kernel)).2, hstreet,
    ((hlisted "οδος" hstreet).2 (answer 5)).1⟩

end Listing.Library
