/-!
# Whole numbers in decimal writing

A natural number is one or more of the ten ASCII digits; a signed one may carry `+` or `-` before
them, an unsigned one only `+`.  Leading zeros are allowed, nothing else is.  A reading into a
fixed width fails instead of wrapping.
-/

namespace BulkImport.Text

/-- The value of an ASCII digit. -/
def digit? (c : Char) : Option Nat :=
  if '0' ≤ c ∧ c ≤ '9' then some (c.toNat - '0'.toNat) else none

/-- The number that a row of digits continues, `n` being the number read so far. -/
def digitsFrom (n : Nat) : List Char → Option Nat
  | [] => some n
  | c :: cs => (digit? c).bind fun d => digitsFrom (10 * n + d) cs

/-- The number that one or more digits write. -/
def natural? : List Char → Option Nat
  | [] => none
  | cs => digitsFrom 0 cs

/-- A natural number, with or without a plus sign. -/
def unsigned? : List Char → Option Nat
  | '+' :: cs => natural? cs
  | cs => natural? cs

/-- A whole number, with or without a sign. -/
def signed? : List Char → Option Int
  | '-' :: cs => (natural? cs).map fun n => -(n : Int)
  | cs => (unsigned? cs).map Int.ofNat

end BulkImport.Text

/-- The number in 64 bits, unless it does not fit. -/
def UInt64.ofNat? (n : Nat) : Option UInt64 :=
  if (UInt64.ofNat n).toNat = n then some (UInt64.ofNat n) else none

/-- The number in 32 bits, unless it does not fit. -/
def UInt32.ofNat? (n : Nat) : Option UInt32 :=
  if (UInt32.ofNat n).toNat = n then some (UInt32.ofNat n) else none

/-- The number in 64 bits with sign, unless it does not fit. -/
def Int64.ofInt? (n : Int) : Option Int64 :=
  if (Int64.ofInt n).toInt = n then some (Int64.ofInt n) else none

theorem UInt64.ofNat?_toNat (n : UInt64) : UInt64.ofNat? n.toNat = some n := by
  simp [UInt64.ofNat?]

theorem Int64.ofInt?_toInt (n : Int64) : Int64.ofInt? n.toInt = some n := by
  simp [Int64.ofInt?]

theorem UInt64.toNat_of_ofNat? {n : Nat} {m : UInt64} (h : UInt64.ofNat? n = some m) :
    m.toNat = n := by
  unfold UInt64.ofNat? at h
  split at h
  · next hn => cases h; exact hn
  · cases h

theorem Int64.toInt_of_ofInt? {n : Int} {m : Int64} (h : Int64.ofInt? n = some m) :
    m.toInt = n := by
  unfold Int64.ofInt? at h
  split at h
  · next hn => cases h; exact hn
  · cases h
