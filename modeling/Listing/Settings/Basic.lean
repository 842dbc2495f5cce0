import Listing.Settings.Environment
import Listing.Text.Quoted
import Listing.Wire.Plan

/-! # Settings

  What queries use where they do not say otherwise, and how many
  records a page may have at most. Settings come from a document,
  where missing fields keep their defaults, or from an environment,
  and are checked in either case.
-/

namespace Listing

/-- Defaults and limits of queries. -/
structure Settings where
  /-- How many records a page has. -/
  pageSize : UInt64
  /-- The direction of an ordering that does not have one. -/
  direction : Direction
  /-- How many records a page may have. -/
  maxPageSize : UInt64
deriving DecidableEq, Repr

/-- Why settings cannot be used. -/
inductive SettingsError
  /-- A page size of zero or above the limit. -/
  | invalidPageSize (pageSize max : UInt64)
  /-- A number in the environment cannot be read. -/
  | invalidNumber (key value : String) (fault : Text.NumeralFault)
  /-- A direction in the environment cannot be read. -/
  | invalidDirection (key value : String) (fault : Direction.Unknown)
  /-- A document has the wrong form. -/
  | malformedDocument
  /-- A file of assignments cannot be loaded. -/
  | environmentFile (fault : Environment.FileFault)
deriving DecidableEq, Repr

/-- A value of the environment with what is wrong about it. -/
def SettingsError.valueMessage (key value fault : String) : String :=
  "Invalid value for " ++ key ++ ": " ++ Text.quote value ++ " (" ++ fault ++ ")"

/-- The wording of an error. -/
def SettingsError.message : SettingsError → String
  | .invalidPageSize pageSize max =>
    "Invalid page size " ++ Text.natText pageSize.toNat ++ ": expected a value between 1 and " ++
      Text.natText max.toNat
  | .invalidNumber key value fault => valueMessage key value fault.message
  | .invalidDirection key value fault => valueMessage key value fault.message
  | .malformedDocument => "Failed to parse settings document"
  | .environmentFile fault => "Invalid env file: " ++ fault.message

namespace Settings

/-- What holds without any settings. -/
def standard : Settings := ⟨Plan.defaultPageSize, .ascending, 1000⟩

/-! ### Checks -/

/-- A page of the given size is allowed. -/
def checkPageSize (s : Settings) (pageSize : UInt64) : Except SettingsError Unit :=
  if pageSize = 0 ∨ s.maxPageSize < pageSize then .error (.invalidPageSize pageSize s.maxPageSize)
  else .ok ()

/-- The settings if their own page size is allowed. -/
def checked (s : Settings) : Except SettingsError Settings := do
  s.checkPageSize s.pageSize
  .ok s

/-! ### Documents -/

/-- The value of a field, or its default where it is missing. -/
def fieldOr {α : Type} [Wire α] (default : α) : Option Json → Option α
  | none => some default
  | some j => Wire.decode j

instance : Wire Settings where
  encode s := .record
    [ ("page_size", Wire.encode s.pageSize), ("default_direction", Wire.encode s.direction),
      ("max_page_size", Wire.encode s.maxPageSize) ]
  decode j := do
    match ← j.optionalFields? ["page_size", "default_direction", "max_page_size"] with
    | [pageSize, direction, maxPageSize] =>
      some ⟨← fieldOr standard.pageSize pageSize, ← fieldOr standard.direction direction,
        ← fieldOr standard.maxPageSize maxPageSize⟩
    | _ => none

/-- The settings of a document. -/
def ofDocument (document : String) : Except SettingsError Settings :=
  match deserialize document with
  | none => .error .malformedDocument
  | some s => checked s

/-! ### Environments -/

/-- The name of the page size in an environment. -/
def pageSizeKey : String := "QUERY_PAGE_SIZE"

/-- The name of the direction in an environment. -/
def directionKey : String := "QUERY_SORT_DIRECTION"

/-- The name of the limit in an environment. -/
def maxPageSizeKey : String := "QUERY_MAX_PAGE_SIZE"

/-- The number under a name, or the given one if there is nothing under it. -/
def numberOr (default : UInt64) (env : Environment) (key : String) :
    Except SettingsError UInt64 :=
  match env.get? key with
  | none => .ok default
  | some raw =>
    match Text.readUnsigned (Text.trim raw.toList) with
    | .ok n => .ok n
    | .error fault => .error (.invalidNumber key raw fault)

/-- The direction under a name, or the given one if there is nothing under it. -/
def directionOr (default : Direction) (env : Environment) (key : String) :
    Except SettingsError Direction :=
  match env.get? key with
  | none => .ok default
  | some raw =>
    match Direction.read raw with
    | .ok d => .ok d
    | .error fault => .error (.invalidDirection key raw fault)

/-- The settings with what the environment says in their place. -/
def override (s : Settings) (env : Environment) : Except SettingsError Settings := do
  let pageSize ← numberOr s.pageSize env pageSizeKey
  let direction ← directionOr s.direction env directionKey
  let maxPageSize ← numberOr s.maxPageSize env maxPageSizeKey
  -- Checked as a whole, so a new limit may make the old page size invalid.
  checked ⟨pageSize, direction, maxPageSize⟩

/-- The standard settings with what the environment says in their place. -/
def ofEnvironment (env : Environment) : Except SettingsError Settings := standard.override env

/-! ### Small facts -/

theorem checkPageSize_eq (s : Settings) (pageSize : UInt64) :
    s.checkPageSize pageSize =
      if 1 ≤ pageSize ∧ pageSize ≤ s.maxPageSize then .ok ()
      else .error (.invalidPageSize pageSize s.maxPageSize) := by
  have hzero : 1 ≤ pageSize ↔ pageSize ≠ 0 := by
    rw [ne_eq, ← UInt64.toNat_inj, UInt64.le_iff_toNat_le]
    show 1 ≤ pageSize.toNat ↔ ¬pageSize.toNat = 0
    omega
  unfold checkPageSize
  by_cases h : pageSize = 0 ∨ s.maxPageSize < pageSize
  · have hnot : ¬(1 ≤ pageSize ∧ pageSize ≤ s.maxPageSize) := by
      rw [hzero, ← UInt64.not_lt]
      grind
    rw [if_pos h, if_neg hnot]
  · have hok : 1 ≤ pageSize ∧ pageSize ≤ s.maxPageSize := by
      rw [hzero, ← UInt64.not_lt]
      grind
    rw [if_neg h, if_pos hok]

theorem checkPageSize_eq_ok_iff {s : Settings} {pageSize : UInt64} :
    s.checkPageSize pageSize = .ok () ↔ 1 ≤ pageSize ∧ pageSize ≤ s.maxPageSize := by
  rw [checkPageSize_eq]
  split <;> simp [*]

/-- Settings pass the check as they are, or their own numbers are reported. -/
theorem checked_eq (s : Settings) :
    checked s =
      if 1 ≤ s.pageSize ∧ s.pageSize ≤ s.maxPageSize then .ok s
      else .error (.invalidPageSize s.pageSize s.maxPageSize) := by
  rw [checked, checkPageSize_eq]
  split <;> rfl

end Settings
end Listing
