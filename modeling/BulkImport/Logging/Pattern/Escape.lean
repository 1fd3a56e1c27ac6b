import BulkImport.Text.Blank
import BulkImport.Text.Hexadecimal

/-!
# Escapes in patterns

A backslash and what follows it stand for one character, for any character of some kind, or for a
place between characters.  Main statement: behind a backslash, what is no letter or
digit of ASCII stands for itself, apart from the angle brackets (`escape?_of_not_isAlphanum`).
-/

namespace BulkImport.Logging.Pattern

/-- How a pattern is read at some place. -/
structure Mode where
  /-- Blanks mean nothing, and neither does a number sign with the rest of its line. -/
  verbose : Bool := false
  /-- The pattern is about characters; otherwise it is about bytes, and those have to be ASCII. -/
  unicode : Bool := true
deriving DecidableEq

/-- What follows blanks and comments, which may begin inside a comment. -/
def pass : Bool → List Char → List Char
  | _, [] => []
  | true, c :: cs => pass (c ≠ '\n') cs
  | false, c :: cs =>
    if c = '#' then pass true cs else if Text.isBlank c then pass false cs else c :: cs

namespace Mode

/-- What follows the characters that mean nothing. -/
def skip (m : Mode) (cs : List Char) : List Char := if m.verbose then pass false cs else cs

end Mode

/-- What an element of a pattern stands for. -/
inductive Element where
  | literal (c : Char)
  /-- Any character of some kind. -/
  | kind
  /-- A place between characters. -/
  | place
deriving DecidableEq

/-- Whether an element can be a member of a class. -/
def Mode.admits (m : Mode) : Element → Bool
  | .literal c => m.unicode || c.toNat < 0x80
  | .kind => true
  | .place => false

/-- The number that so many more hexadecimal digits write, and what follows them. -/
def digits? (m : Mode) (n : Nat) : Nat → List Char → Option (Nat × List Char)
  | 0, cs => some (n, cs)
  | size + 1, cs =>
    match m.skip cs with
    | c :: cs => (Text.hexValue? c).bind fun d => digits? m (16 * n + d) size cs
    | [] => none

/-- The character whose number so many hexadecimal digits write. -/
def numbered? (m : Mode) (size : Nat) (cs : List Char) : Option (Element × List Char) :=
  (digits? m 0 size cs).bind fun (n, rest) =>
    if n.isValidChar then some (.literal (Char.ofNat n), rest) else none

/-- The control character that a letter stands for. -/
def control? : Char → Option Char
  | 'a' => some '\x07'
  | 't' => some '\t'
  | 'n' => some '\n'
  | 'v' => some '\x0B'
  | 'f' => some '\x0C'
  | 'r' => some '\r'
  | _ => none

/-- Whether a letter is the name of a Unicode category. -/
def isCategory (c : Char) : Bool := "clmnpsz".toList.contains c.toLower

/-- What stands behind a backslash, and what follows it.  The ends of words are not known where the
pattern is about characters, and the kinds that are not ASCII not where it is about bytes. -/
def escape? (m : Mode) : List Char → Option (Element × List Char)
  | [] => none
  | 'x' :: cs => (numbered? m 2 cs).filter fun (e, _) => m.admits e
  | 'u' :: cs => numbered? m 4 cs
  | 'U' :: cs => numbered? m 8 cs
  | c :: cs =>
    if c = 'p' ∨ c = 'P' then
      match m.skip cs with
      | k :: cs => if m.unicode && isCategory k then some (.kind, cs) else none
      | [] => none
    else if "dsw".toList.contains c then some (.kind, cs)
    else if "DSW".toList.contains c then if m.unicode then some (.kind, cs) else none
    else if "Az".toList.contains c then some (.place, cs)
    else if "bB<>".toList.contains c then if m.unicode then none else some (.place, cs)
    else
      match control? c with
      | some c => some (.literal c, cs)
      | none => if c.toNat < 0x80 && !c.isAlphanum then some (.literal c, cs) else none

theorem control?_of_not_isAlphanum {c : Char} (h : c.isAlphanum = false) : control? c = none := by
  unfold control?
  split <;> first | rfl | exact absurd h (by decide)

theorem escape?_of_not_isAlphanum (m : Mode) (cs : List Char) {c : Char} (ha : c.toNat < 0x80)
    (hn : c.isAlphanum = false) (hl : c ≠ '<') (hr : c ≠ '>') :
    escape? m (c :: cs) = some (.literal c, cs) := by
  have ne : ∀ d : Char, d.isAlphanum = true → c ≠ d := by
    rintro d hd rfl
    simp [hn] at hd
  unfold escape?
  split
  · next h => cases h
  · next h => exact absurd (List.cons.inj h).1 (ne 'x' (by decide))
  · next h => exact absurd (List.cons.inj h).1 (ne 'u' (by decide))
  · next h => exact absurd (List.cons.inj h).1 (ne 'U' (by decide))
  · next h =>
    obtain ⟨rfl, rfl⟩ := List.cons.inj h
    simp only [ne 'p' (by decide), ne 'P' (by decide), or_self, if_false]
    simp [ne 'd' (by decide), ne 's' (by decide), ne 'w' (by decide), ne 'D' (by decide),
      ne 'S' (by decide), ne 'W' (by decide), ne 'A' (by decide), ne 'z' (by decide),
      ne 'b' (by decide), ne 'B' (by decide), hl, hr, control?_of_not_isAlphanum hn, ha, hn]

end BulkImport.Logging.Pattern
