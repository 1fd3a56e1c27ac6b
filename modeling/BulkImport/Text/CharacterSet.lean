import BulkImport.Text.Blank
import BulkImport.Text.Hexadecimal

/-!
# Sets of characters

A large set of characters is written down by its runs.  Each is two hexadecimal numbers with a
hyphen between them, of its first and its last character, or one number if they are the same;
blanks stand between the runs.  Main statement: a set of one run holds the characters from its
first one to its last one (`contains_run`).
-/

namespace BulkImport.Text

/-- The words of a text: what stands between its blanks. -/
def words (s : String) : List (List Char) :=
  (piecesChars ' ' (s.toList.map fun c => if isBlank c then ' ' else c)).filter (· ≠ [])

/-- The number that hexadecimal digits write; all other characters count as zeros. -/
def hexNumber (cs : List Char) : Nat :=
  cs.foldl (fun n c => 16 * n + (hexValue? c).getD 0) 0

/-- A set of characters, as the numbers of the first and the last one of each run. -/
structure CharacterSet where
  runs : List (Nat × Nat)

namespace CharacterSet

/-- The set whose runs a text writes. -/
def ofText (s : String) : CharacterSet :=
  ⟨(words s).map fun word =>
    match cutChars '-' word with
    | some (first, last) => (hexNumber first, hexNumber last)
    | none => (hexNumber word, hexNumber word)⟩

/-- Whether a character is in a set. -/
def contains (s : CharacterSet) (c : Char) : Bool :=
  s.runs.any fun (first, last) => first ≤ c.toNat && c.toNat ≤ last

theorem contains_run {first last : Nat} {c : Char} :
    contains ⟨[(first, last)]⟩ c = true ↔ first ≤ c.toNat ∧ c.toNat ≤ last := by
  simp [contains]

end CharacterSet

end BulkImport.Text
