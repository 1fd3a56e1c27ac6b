/-!
# Hexadecimal digits

The sixteen digits, read in either case and written in the one asked for.  Main statement: a digit
that was written is read as its value (`hexValue?_hexDigit`).
-/

namespace BulkImport.Text

/-- The digit of a value below sixteen, `ten` being the digit of ten. -/
def hexDigit (ten : Char) (n : Nat) : Char :=
  if n < 10 then Char.ofNat ('0'.toNat + n) else Char.ofNat (ten.toNat + n - 10)

/-- The value of a digit. -/
def hexValue? (c : Char) : Option Nat :=
  if '0' ≤ c ∧ c ≤ '9' then some (c.toNat - '0'.toNat)
  else if 'a' ≤ c ∧ c ≤ 'f' then some (c.toNat - 'a'.toNat + 10)
  else if 'A' ≤ c ∧ c ≤ 'F' then some (c.toNat - 'A'.toNat + 10)
  else none

theorem hexValue?_hexDigit {ten : Char} (ht : ten ∈ ['a', 'A']) {n : Nat} (hn : n < 16) :
    hexValue? (hexDigit ten n) = some n := by
  have lower : ∀ m : Fin 16, hexValue? (hexDigit 'a' m) = some m.val := by decide
  have upper : ∀ m : Fin 16, hexValue? (hexDigit 'A' m) = some m.val := by decide
  rcases List.mem_cons.1 ht with rfl | ht
  · exact lower ⟨n, hn⟩
  · rcases List.mem_cons.1 ht with rfl | ht
    · exact upper ⟨n, hn⟩
    · cases ht

end BulkImport.Text
