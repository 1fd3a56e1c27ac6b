import BulkImport.Text.Blank

/-!
# Vocabularies

A type with finitely many values, each with a word of its own.  Words are read exactly, or with
the case of the Latin letters ignored and further spellings allowed.
-/

namespace BulkImport

/-- A type whose values are written as words. -/
class Vocabulary (α : Type) where
  /-- Every value, in the order of declaration. -/
  all : List α
  /-- The word for a value. -/
  word : α → String
  /-- Other spellings that a tolerant reading takes for the value. -/
  aliases : α → List String := fun _ => []

namespace Vocabulary

variable {α : Type} [Vocabulary α]

/-- The value with exactly this word. -/
def ofWord? (s : String) : Option α :=
  (all : List α).find? fun a => word a == s

/-- The value with this word or one of its other spellings, whatever the case of the letters. -/
def ofSpelling? (s : String) : Option α :=
  (all : List α).find? fun a => (word a :: aliases a).any fun w => Text.fold w == Text.fold s

/-- A vocabulary whose words are read as what they stand for. -/
class Distinct (α : Type) [Vocabulary α] : Prop where
  ofWord?_word : ∀ a : α, ofWord? (word a) = some a

theorem word_injective [Distinct α] : Function.Injective (word : α → String) := by
  intro a b h
  have hread := Distinct.ofWord?_word a
  rw [h, Distinct.ofWord?_word b] at hread
  exact (Option.some.inj hread).symm

end Vocabulary

end BulkImport
