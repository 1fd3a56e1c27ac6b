import BulkImport.Text.Numeral

/-!
# Decimal numbers

Numbers with a sign, a point and an exponent, each of which may be missing, and the words for what
is no finite number.  Main statement: digits alone are a number (`isNumber_of_digits`).
-/

namespace BulkImport.Text

/-- Whether this is a sign, or nothing, and digits. -/
def isExponent : List Char → Bool
  | '+' :: cs => !cs.isEmpty && cs.all Char.isDigit
  | '-' :: cs => !cs.isEmpty && cs.all Char.isDigit
  | cs => !cs.isEmpty && cs.all Char.isDigit

/-- Whether this can follow the digits of a number. -/
def endsNumber : List Char → Bool
  | [] => true
  | c :: cs => (c == 'e' || c == 'E') && isExponent cs

/-- Whether this is a number without a sign: a point has digits on one of its sides. -/
def isMagnitude (cs : List Char) : Bool :=
  let whole := cs.takeWhile Char.isDigit
  match cs.dropWhile Char.isDigit with
  | '.' :: rest =>
    (!whole.isEmpty || rest.head?.any Char.isDigit) && endsNumber (rest.dropWhile Char.isDigit)
  | rest => !whole.isEmpty && endsNumber rest

/-- The words for what is no finite number. -/
def notFinite : List (List Char) := ["inf".toList, "infinity".toList, "nan".toList]

/-- Whether this is a number, or the word for what is no finite one. -/
def isNumber (cs : List Char) : Bool :=
  let unsigned := match cs with
    | '+' :: cs => cs
    | '-' :: cs => cs
    | cs => cs
  notFinite.contains (unsigned.map Char.toLower) || isMagnitude unsigned

theorem isMagnitude_of_digits {cs : List Char} (hne : cs ≠ [])
    (h : ∀ c ∈ cs, c.isDigit = true) : isMagnitude cs = true := by
  have hd : cs.dropWhile Char.isDigit = [] := by
    rw [← List.append_nil cs, List.dropWhile_append_of_pos h]; rfl
  have ht : cs.takeWhile Char.isDigit = cs := by
    rw [← List.append_nil cs, List.takeWhile_append_of_pos h]; simp
  simp only [isMagnitude, hd, ht, endsNumber]
  cases cs with
  | nil => exact (hne rfl).elim
  | cons c cs => rfl

theorem isNumber_of_digits {cs : List Char} (hne : cs ≠ [])
    (h : ∀ c ∈ cs, c.isDigit = true) : isNumber cs = true := by
  unfold isNumber
  split
  · exact absurd (h '+' (List.mem_cons_self ..)) (by decide)
  · exact absurd (h '-' (List.mem_cons_self ..)) (by decide)
  · simp [isMagnitude_of_digits hne h]

end BulkImport.Text
