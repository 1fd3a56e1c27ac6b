/-!
# Identifiers

Names of schemas, tables, triggers, views and indices that may stand in a statement.  A name has
at most 63 bytes, begins with a Latin letter, a digit or an underscore, and goes on with those or
hyphens.  Main statements: a text is taken exactly when it is such a name (`ofText_eq_ok_iff`),
and of two faults the first of emptiness, length and characters is reported.
-/

namespace BulkImport.Sql

/-- The longest name, in bytes, that the database tells apart from others. -/
def maxIdentifierBytes : Nat := 63

/-- The characters a name can begin with. -/
def isNameStart (c : Char) : Bool := c.isAlphanum || c == '_'

/-- The characters a name can go on with. -/
def isNamePart (c : Char) : Bool := isNameStart c || c == '-'

/-- Whether characters spell a name, whatever its length. -/
def spellsName : List Char → Bool
  | [] => false
  | c :: cs => isNameStart c && cs.all isNamePart

/-- A name that is safe to put into a statement. -/
structure Identifier where
  /-- The name without quotes. -/
  text : String
  /-- It is made of the allowed characters only. -/
  spelled : spellsName text.toList = true
  /-- The database keeps all of it. -/
  fits : text.utf8ByteSize ≤ maxIdentifierBytes
deriving DecidableEq

/-- Why a text is no identifier. -/
inductive IdentifierError where
  | empty
  | tooLong (name : String)
  | invalidCharacters (name : String)
deriving DecidableEq

/-- What is reported for a text that is no identifier. -/
def IdentifierError.message : IdentifierError → String
  | .empty => "Identifier is required and cannot be empty"
  | .tooLong name => "Identifier '" ++ name ++ "' exceeds 63 bytes"
  | .invalidCharacters name =>
    "Identifier '" ++ name ++ "' may only contain letters, digits, '_' and '-'"

namespace Identifier

/-- The identifier of this text. -/
def ofText (name : String) : Except IdentifierError Identifier :=
  if name = "" then .error .empty
  else if fits : name.utf8ByteSize ≤ maxIdentifierBytes then
    if spelled : spellsName name.toList then .ok ⟨name, spelled, fits⟩
    else .error (.invalidCharacters name)
  else .error (.tooLong name)

/-- The identifier with more text at its end, such as the name of a part of a table. -/
def withSuffix (i : Identifier) (suffix : String) : Except IdentifierError Identifier :=
  ofText (i.text ++ suffix)

/-- The name as it stands in a statement: between double quotes, so that case and a leading digit
survive. -/
def quoted (i : Identifier) : String := "\"" ++ i.text ++ "\""

@[ext] theorem ext {i j : Identifier} (h : i.text = j.text) : i = j := by
  cases i; cases j; cases h; rfl

theorem text_ne_empty (i : Identifier) : i.text ≠ "" := by
  intro h
  have := i.spelled
  rw [h] at this
  exact absurd this (by decide)

/-- Every identifier is read back from its own text. -/
theorem ofText_text (i : Identifier) : ofText i.text = .ok i := by
  unfold ofText
  rw [if_neg i.text_ne_empty, dif_pos i.fits, dif_pos i.spelled]

theorem text_of_ofText {name : String} {i : Identifier} (h : ofText name = .ok i) :
    i.text = name := by
  unfold ofText at h
  split at h
  · cases h
  · split at h
    · split at h
      · cases h; rfl
      · cases h
    · cases h

/-- Reading takes exactly the texts of identifiers. -/
theorem ofText_eq_ok_iff {name : String} {i : Identifier} :
    ofText name = .ok i ↔ i.text = name :=
  ⟨text_of_ofText, fun h => h ▸ i.ofText_text⟩

end Identifier

end BulkImport.Sql
