import BulkImport.Text.Blank
import BulkImport.Text.Numeral

/-!
# Environment variables

Settings are read from named texts.  A variable that is blank counts as not set, and blanks around
a value mean nothing.  A value that is set and does not fit is an error and never a silent default.
Main statement: what is read of a variable depends on its trimmed value only
(`read?_congr`).
-/

namespace BulkImport

/-- The values of the variables that are set. -/
abbrev Environment := String → Option String

namespace Environment

/-- A variable that is set to something that does not fit. -/
structure Error where
  variableName : String
  value : String
deriving DecidableEq

/-- What is reported for a value that does not fit. -/
def Error.message (e : Error) : String :=
  "Invalid value for " ++ e.variableName ++ ": " ++ e.value

/-- The value of a variable without the blanks around it, unless nothing is left. -/
def read? (env : Environment) (name : String) : Option String :=
  (env name).bind fun v => if Text.trim v = "" then none else some (Text.trim v)

/-- The value of a variable, or a default. -/
def readOr (env : Environment) (name : String) (default : String) : String :=
  (env.read? name).getD default

/-- The value of a variable as `parse` understands it, or a default. -/
def parseOr {α : Type} (env : Environment) (name : String) (parse : String → Option α)
    (default : α) : Except Error α :=
  match env.read? name with
  | none => .ok default
  | some v =>
    match parse v with
    | some a => .ok a
    | none => .error ⟨name, v⟩

/-- One of the words for yes and no, in any case. -/
def flag? (v : String) : Option Bool :=
  if Text.fold v ∈ ["true", "1", "yes", "on"] then some true
  else if Text.fold v ∈ ["false", "0", "no", "off"] then some false
  else none

/-- A number of 32 bits. -/
def uint32? (v : String) : Option UInt32 := (Text.unsigned? v.toList).bind UInt32.ofNat?

/-- A number of 64 bits. -/
def uint64? (v : String) : Option UInt64 := (Text.unsigned? v.toList).bind UInt64.ofNat?

/-- A number of 64 bits with sign. -/
def int64? (v : String) : Option Int64 := (Text.signed? v.toList).bind Int64.ofInt?

/-- The items between commas, without blanks around them and without blank ones. -/
def items (v : String) : List String :=
  ((Text.pieces ',' v).map Text.trim).filter (· ≠ "")

theorem read?_congr {env env' : Environment} {name : String}
    (h : ((env name).map Text.trim).filter (· ≠ "") =
      ((env' name).map Text.trim).filter (· ≠ "")) :
    env.read? name = env'.read? name := by
  have key : ∀ e : Environment, e.read? name = ((e name).map Text.trim).filter (· ≠ "") := by
    intro e
    unfold read?
    cases e name with
    | none => rfl
    | some v => by_cases hv : Text.trim v = "" <;> simp [hv, Option.filter]
  rw [key, key, h]

end Environment

end BulkImport
