import BulkImport.Logging.Pattern.Escape

/-!
# Classes in patterns

A class stands between square brackets: characters, ranges of them, kinds of characters and other
classes, with operators between groups of these.  Main statement: what an operator joins lies a
level deeper than before (`depth_join`).
-/

namespace BulkImport.Logging.Pattern

/-- How many levels parts have that stand beside one another: two of them make one of their own. -/
def level : List Nat → Nat
  | [] => 0
  | [d] => d
  | ds => 1 + ds.foldr max 0

/-- A class that is open. -/
structure Bracket where
  /-- Whether at most hyphens were read, which stand for themselves until something else comes. -/
  isFresh : Bool := true
  /-- The levels of what an operator joins to the members behind it. -/
  left : Option Nat := none
  /-- The levels of the members, the last one first. -/
  members : List Nat := []

namespace Bracket

/-- The levels of what is between the brackets. -/
def depth (b : Bracket) : Nat :=
  match b.left with
  | none => level b.members
  | some left => 1 + max left (level b.members)

/-- The class with one more member. -/
def insert (b : Bracket) (levels : Nat) : Bracket :=
  { b with isFresh := false, members := levels :: b.members }

/-- The class with one more hyphen at its beginning. -/
def hyphen (b : Bracket) : Bracket := { b with members := 0 :: b.members }

/-- The class with an operator behind what was read. -/
def join (b : Bracket) : Bracket := { isFresh := false, left := some b.depth }

theorem depth_join (b : Bracket) : b.join.depth = b.depth + 1 := by
  simp [join, depth, level, Nat.add_comm]

end Bracket

/-- The names of kinds of ASCII characters. -/
def kinds : List (List Char) := List.map String.toList
  ["alnum", "alpha", "ascii", "blank", "cntrl", "digit", "graph", "lower", "print", "punct",
    "space", "upper", "word", "xdigit"]

/-- What follows a kind of ASCII characters between colons and its last bracket, of which the first
bracket was read, and whether the kind is turned round. -/
def kind? : List Char → Option (Bool × List Char)
  | ':' :: cs =>
    let (negated, cs) := match cs with
      | '^' :: cs => (true, cs)
      | cs => (false, cs)
    match cs.dropWhile (· ≠ ':') with
    | ':' :: ']' :: rest =>
      if kinds.contains (cs.takeWhile (· ≠ ':')) then some (negated, rest) else none
    | _ => none
  | _ => none

/-- An element of a class, and what follows it. -/
def element? (m : Mode) : List Char → Option (Element × List Char)
  | [] => none
  | '\\' :: cs => escape? m cs
  | c :: cs => some (.literal c, cs)

/-- Whether two elements are the ends of a range. -/
def Mode.isRange (m : Mode) : Element → Element → Bool
  | .literal a, .literal b => a ≤ b && m.admits (.literal a) && m.admits (.literal b)
  | _, _ => false

/-- What a hyphen in a class is followed by, where the first line of a comment counts. -/
def Mode.afterHyphen? (m : Mode) (cs : List Char) : Option Char :=
  if m.verbose then
    match cs.dropWhile Text.isBlank with
    | '#' :: comment => (comment.dropWhile Text.isBlank).head?
    | rest => rest.head?
  else cs.head?

/-- What follows an element of a class or a range.  A hyphen makes no range in front of another one
or at the end of the class. -/
def member? (m : Mode) (cs : List Char) : Option (List Char) :=
  (element? m cs).bind fun (first, rest) =>
    let alone := if m.admits first then some (m.skip rest) else none
    match m.skip rest with
    | '-' :: rest =>
      if m.afterHyphen? rest = some '-' ∨ m.afterHyphen? rest = some ']' then alone
      else
        (element? m (m.skip rest)).bind fun (last, rest) =>
          if m.isRange first last then some rest else none
    | _ => alone

/-- What is between the bracket of a class and its members.  Bytes that are not in a class need not
be ASCII, so a class of bytes cannot be turned round. -/
def members? (m : Mode) (cs : List Char) : Option (List Char) :=
  match m.skip cs with
  | '^' :: cs => if m.unicode then some cs else none
  | cs => some cs

/-- Whether this begins with an operator, which is one of three characters twice. -/
def isOperator : List Char → Bool
  | a :: b :: _ => a == b && "&-~".toList.contains a
  | _ => false

/-- The levels of a class that is open inside of others, and what follows the last bracket of the
outermost one.  Each step reads a character. -/
def close? (m : Mode) : Nat → Bracket → List Bracket → List Char → Option (Nat × List Char)
  | 0, _, _, _ => none
  | steps + 1, b, outer, cs =>
    match m.skip cs with
    | [] => none
    | c :: cs =>
      if b.isFresh && c = '-' then close? m steps b.hyphen outer cs
      else if b.isFresh && b.members.isEmpty && c = ']' then close? m steps (b.insert 0) outer cs
      else if c = '[' then
        match kind? cs with
        | some (negated, cs) =>
          if negated && !m.unicode then none else close? m steps (b.insert 0) outer cs
        | none => (members? m cs).bind fun cs => close? m steps {} (b :: outer) cs
      else if c = ']' then
        match outer with
        | [] => some (b.depth + 1, cs)
        | next :: outer => close? m steps (next.insert (b.depth + 1)) outer cs
      else if isOperator (c :: cs) then close? m steps b.join outer cs.tail
      else (member? m (c :: cs)).bind fun cs => close? m steps (b.insert 0) outer cs

/-- The levels of a class of which the first bracket was read, and what follows its last one. -/
def class? (m : Mode) (cs : List Char) : Option (Nat × List Char) :=
  (members? m cs).bind fun cs => close? m cs.length {} [] cs

end BulkImport.Logging.Pattern
