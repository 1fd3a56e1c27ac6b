import BulkImport.Json.Basic
import BulkImport.Text.Hexadecimal

/-!
# Tokens of a JSON text

A text is cut into brackets, separators and scalar values.  The four blanks of the format stand
between tokens and mean nothing.  A text value is read through its code units, because a character
outside the first plane may be escaped as a pair of surrogates; half a pair makes the value
unreadable, not the text ill-formed.
-/

namespace BulkImport.Json

/-- A token of a JSON text. -/
inductive Token where
  | leftBracket
  | rightBracket
  | leftBrace
  | rightBrace
  | comma
  | colon
  | scalar (value : Json)

/-- What a text value is made of: characters, and code units that were escaped by number. -/
inductive CodeUnit where
  | char (c : Char)
  | code (n : Nat)

/-- The code unit that four hexadecimal digits write. -/
def hex? (a b c d : Char) : Option Nat := do
  let a ← Text.hexValue? a
  let b ← Text.hexValue? b
  let c ← Text.hexValue? c
  let d ← Text.hexValue? d
  pure (((a * 16 + b) * 16 + c) * 16 + d)

/-- The character that a letter after a backslash stands for. -/
def escape? : Char → Option Char
  | '"' => some '"'
  | '\\' => some '\\'
  | '/' => some '/'
  | 'b' => some '\x08'
  | 'f' => some '\x0c'
  | 'n' => some '\n'
  | 'r' => some '\r'
  | 't' => some '\t'
  | _ => none

/-- The units of a text value after its opening quote, and what follows its closing one. -/
def scanUnits : List Char → Option (List CodeUnit × List Char)
  | [] => none
  | '"' :: rest => some ([], rest)
  | '\\' :: 'u' :: a :: b :: c :: d :: rest =>
    (hex? a b c d).bind fun n => (scanUnits rest).map fun (us, r) => (.code n :: us, r)
  | '\\' :: e :: rest =>
    (escape? e).bind fun c => (scanUnits rest).map fun (us, r) => (.char c :: us, r)
  | c :: rest =>
    if c = '\\' ∨ c.toNat < 0x20 then none
    else (scanUnits rest).map fun (us, r) => (.char c :: us, r)

/-- The text that units spell, unless half a surrogate pair is among them. -/
def spell? : List CodeUnit → Option (List Char)
  | [] => some []
  | .char c :: us => (spell? us).map (c :: ·)
  | .code h :: .code l :: us =>
    if 0xD800 ≤ h ∧ h < 0xDC00 then
      if 0xDC00 ≤ l ∧ l < 0xE000 then
        (spell? us).map (Char.ofNat (0x10000 + (h - 0xD800) * 0x400 + (l - 0xDC00)) :: ·)
      else none
    else if 0xDC00 ≤ h ∧ h < 0xE000 then none
    else (spell? (.code l :: us)).map (Char.ofNat h :: ·)
  | .code h :: us =>
    if 0xD800 ≤ h ∧ h < 0xE000 then none else (spell? us).map (Char.ofNat h :: ·)

/-- The value of a text from its units. -/
def ofUnits (us : List CodeUnit) : Json :=
  match spell? us with
  | some cs => text (String.ofList cs)
  | none => unreadable

/-- The characters a number can hold. -/
def isNumberChar (c : Char) : Bool :=
  c.isDigit || c == '-' || c == '+' || c == '.' || c == 'e' || c == 'E'

/-- Whether these are one or more digits. -/
def isDigits (cs : List Char) : Bool := !cs.isEmpty && cs.all Char.isDigit

/-- Whether these are digits without a needless zero in front. -/
def isWhole : List Char → Bool
  | ['0'] => true
  | '0' :: _ => false
  | cs => isDigits cs

/-- Whether this is nothing or an exponent. -/
def isExponent : List Char → Bool
  | [] => true
  | e :: '+' :: ds => (e == 'e' || e == 'E') && isDigits ds
  | e :: '-' :: ds => (e == 'e' || e == 'E') && isDigits ds
  | e :: ds => (e == 'e' || e == 'E') && isDigits ds

/-- Whether this is nothing, a fraction, an exponent or both. -/
def isFractionExponent : List Char → Bool
  | '.' :: cs => isDigits (cs.takeWhile Char.isDigit) && isExponent (cs.dropWhile Char.isDigit)
  | cs => isExponent cs

/-- The value of a number without sign; `sign` tells whether a minus stood before it. -/
def unsignedNumber? (sign : Bool) (cs : List Char) : Option Json :=
  let whole := cs.takeWhile Char.isDigit
  let rest := cs.dropWhile Char.isDigit
  let literal := String.ofList (if sign then '-' :: cs else cs)
  if isWhole whole && isFractionExponent rest then
    match rest, Text.natural? whole with
    | [], some n =>
      if sign then
        some (if n = 0 ∨ 0x8000000000000000 < n then decimal literal else integer (-(n : Int)))
      else some (if n < 0x10000000000000000 then integer n else decimal literal)
    | _, _ => some (decimal literal)
  else none

/-- The value of a number. -/
def number? : List Char → Option Json
  | '-' :: cs => unsignedNumber? true cs
  | cs => unsignedNumber? false cs

/-- The value of one of the three bare words. -/
def bareWord? (cs : List Char) : Option Json :=
  if cs = ['t', 'r', 'u', 'e'] then some (bool true)
  else if cs = ['f', 'a', 'l', 's', 'e'] then some (bool false)
  else if cs = ['n', 'u', 'l', 'l'] then some null
  else none

/-- The token that a single character makes. -/
def punctuation? : Char → Option Token
  | '[' => some .leftBracket
  | ']' => some .rightBracket
  | '\x7b' => some .leftBrace
  | '\x7d' => some .rightBrace
  | ',' => some .comma
  | ':' => some .colon
  | _ => none

theorem length_of_scanUnits {cs rest : List Char} {us : List CodeUnit}
    (h : scanUnits cs = some (us, rest)) : rest.length < cs.length := by
  fun_induction scanUnits cs generalizing us rest with
  | case1 => cases h
  | case2 => cases h; simp
  | case3 a b c d r ih =>
    obtain ⟨n, -, h⟩ := Option.bind_eq_some_iff.1 h
    obtain ⟨⟨us', r'⟩, h', he⟩ := Option.map_eq_some_iff.1 h
    cases he
    have := ih h'
    simp only [List.length_cons]
    omega
  | case4 e r _ ih =>
    obtain ⟨c, -, h⟩ := Option.bind_eq_some_iff.1 h
    obtain ⟨⟨us', r'⟩, h', he⟩ := Option.map_eq_some_iff.1 h
    cases he
    have := ih h'
    simp only [List.length_cons]
    omega
  | case5 => cases h
  | case6 c r _ _ _ _ ih =>
    obtain ⟨⟨us', r'⟩, h', he⟩ := Option.map_eq_some_iff.1 h
    cases he
    have := ih h'
    simp only [List.length_cons]
    omega

theorem length_dropWhile_le (p : Char → Bool) (cs : List Char) :
    (cs.dropWhile p).length ≤ cs.length :=
  (List.dropWhile_suffix p).length_le

/-- The tokens of a text, unless something in it starts none. -/
def tokens? : List Char → Option (List Token)
  | [] => some []
  | c :: rest =>
    if c = ' ' ∨ c = '\n' ∨ c = '\t' ∨ c = '\r' then tokens? rest
    else if c = '"' then
      match h : scanUnits rest with
      | none => none
      | some (us, rest') =>
        have := length_of_scanUnits h
        (tokens? rest').map (.scalar (ofUnits us) :: ·)
    else if isNumberChar c then
      have := length_dropWhile_le isNumberChar rest
      (number? (c :: rest.takeWhile isNumberChar)).bind fun j =>
        (tokens? (rest.dropWhile isNumberChar)).map (.scalar j :: ·)
    else if c.isAlpha then
      have := length_dropWhile_le Char.isAlpha rest
      (bareWord? (c :: rest.takeWhile Char.isAlpha)).bind fun j =>
        (tokens? (rest.dropWhile Char.isAlpha)).map (.scalar j :: ·)
    else
      (punctuation? c).bind fun t => (tokens? rest).map (t :: ·)
termination_by cs => cs.length
decreasing_by all_goals (simp only [List.length_cons]; omega)

end BulkImport.Json
