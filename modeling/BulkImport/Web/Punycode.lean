import BulkImport.Text.Blank

/-!
# Punycode

A text of any characters written in letters, digits and hyphens.  What it holds of ASCII stands in
front of the last hyphen; behind it are numbers, in a base that varies from digit to digit, and each
puts in one more character: it says how far to go from the place of the last one, round the text as
often as the characters that come between.  Main statement: a digit has one of 36 values
(`digit?_lt`).
-/

namespace BulkImport.Web.Punycode

/-- The value of a digit: the letters come first. -/
def digit? (c : Char) : Option Nat :=
  let n := c.toNat
  if 'a'.toNat ≤ n ∧ n ≤ 'z'.toNat then some (n - 'a'.toNat)
  else if 'A'.toNat ≤ n ∧ n ≤ 'Z'.toNat then some (n - 'A'.toNat)
  else if '0'.toNat ≤ n ∧ n ≤ '9'.toNat then some (n - '0'.toNat + 26)
  else none

/-- The least value of a digit after so many others that does not end its number. -/
def threshold (digits bias : Nat) : Nat := max 1 (min 26 (36 * (digits + 1) - bias))

/-- How often a step is divided until it is small, and what is left of it. -/
def shrink (step : Nat) : Nat × Nat :=
  if 455 < step then
    let (times, rest) := shrink (step / 35)
    (times + 1, rest)
  else (0, step)
termination_by step
decreasing_by exact Nat.div_lt_self (by omega) (by omega)

/-- The bias for the number after a step in a text of so many characters. -/
def bias (isFirst : Bool) (step size : Nat) : Nat :=
  let step := if isFirst then step / 700 else step / 2
  let (times, rest) := shrink (step + step / size)
  36 * times + 36 * rest / (rest + 38)

/-- How far a text is read. -/
structure Reading where
  text : List Char
  /-- The number of the character that was put in last. -/
  code : Nat := 128
  /-- The place behind it. -/
  place : Nat := 0
  bias : Nat := 72
  /-- What the digits of the number that is being read make so far. -/
  step : Nat := 0
  weight : Nat := 1
  digits : Nat := 0

/-- Read a digit, which puts in a character if it ends its number. -/
def Reading.next? (r : Reading) (c : Char) : Option Reading :=
  (digit? c).bind fun d =>
    let t := threshold r.digits r.bias
    let step := r.step + d * r.weight
    if t ≤ d then
      some { r with step := step, weight := r.weight * (36 - t), digits := r.digits + 1 }
    else
      let size := r.text.length + 1
      let code := r.code + (r.place + step) / size
      let place := (r.place + step) % size
      if code.isValidChar then
        some { text := r.text.take place ++ Char.ofNat code :: r.text.drop place
               code := code, place := place + 1, bias := Punycode.bias (r.place = 0) step size }
      else none

/-- The text that numbers make of the characters of ASCII. -/
def insert? (plain digits : List Char) : Option (List Char) :=
  (digits.foldlM Reading.next? { text := plain }).bind fun r =>
    if r.digits = 0 then some r.text else none

/-- The text that is written in punycode. -/
def decode? (cs : List Char) : Option (List Char) :=
  if cs.all (·.toNat < 0x80) then
    match Text.cutLast '-' cs with
    | some (c :: plain, digits) => insert? (c :: plain) digits
    | _ => insert? [] cs
  else none

theorem digit?_lt {c : Char} {d : Nat} (h : digit? c = some d) : d < 36 := by
  simp only [digit?, Char.reduceToNat] at h
  split at h
  · simp at h; omega
  · split at h
    · simp at h; omega
    · split at h
      · simp at h; omega
      · cases h

end BulkImport.Web.Punycode
