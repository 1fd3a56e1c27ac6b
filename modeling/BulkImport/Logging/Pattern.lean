import BulkImport.Logging.Pattern.Bracket
import BulkImport.Text.Alphanumeric

/-!
# Patterns

A regular expression that a value is compared with: branches between bars, whose parts are
characters, classes, places and groups, and each part may be repeated.  A repetition that counts is
none, as its braces would end the field that the pattern stands in.  Main statement: a text without
special characters is a pattern (`isPattern_of_plain`).
-/

namespace BulkImport.Logging.Pattern

/-- A group that is being read, or the whole pattern. -/
structure Group where
  mode : Mode := {}
  /-- The levels of the branches that have ended. -/
  branches : List Nat := []
  /-- The levels of the parts of the branch that is being read, the last one first. -/
  parts : List Nat := []
  /-- Whether the last of them is something that can be repeated. -/
  isRepeatable : Bool := false

namespace Group

/-- The levels of what is in the group. -/
def depth (g : Group) : Nat := level (level g.parts :: g.branches)

/-- The group with one more part. -/
def add (g : Group) (levels : Nat) : Group :=
  { g with parts := levels :: g.parts, isRepeatable := true }

/-- The group read in another way from here on. -/
def setMode (g : Group) (m : Mode) : Group :=
  { g with mode := m, parts := 0 :: g.parts, isRepeatable := false }

/-- The group at the beginning of its next branch. -/
def nextBranch (g : Group) : Group :=
  { g with branches := level g.parts :: g.branches, parts := [], isRepeatable := false }

/-- The group with its last part repeated. -/
def repeatLast? (g : Group) : Option Group :=
  match g.isRepeatable, g.parts with
  | true, d :: parts => some { g with parts := (d + 1) :: parts }
  | _, _ => none

end Group

/-- The characters that change how a pattern is read, and the hyphen that takes back those behind
it. -/
def modeLetters : List Char := "imsUuRx-".toList

/-- The mode that letters change another one to: each stands there once, and the hyphen before one
of them. -/
def Mode.change? (m : Mode) (letters : List Char) : Option Mode :=
  if letters.all modeLetters.contains && decide letters.Nodup && letters.getLast? ≠ some '-' then
    let on := letters.takeWhile (· ≠ '-')
    let off := letters.dropWhile (· ≠ '-')
    some
      { verbose := on.contains 'x' || (m.verbose && !off.contains 'x')
        unicode := on.contains 'u' || (m.unicode && !off.contains 'u') }
  else none

/-- Whether this is the name of a group. -/
def isName : List Char → Bool
  | [] => false
  | c :: cs =>
    (c == '_' || Text.isAlphabetic c) &&
      cs.all fun c => "_.[]".toList.contains c || Text.isAlphanumeric c

/-- What an opening parenthesis begins. -/
inductive Opening where
  | group (mode : Mode)
  | named (name : List Char)
  /-- Nothing: it stands around letters that change the mode. -/
  | setMode (mode : Mode)

/-- The name that ends at an angle bracket. -/
def named? (cs : List Char) : Option (Opening × List Char) :=
  let name := cs.takeWhile (· ≠ '>')
  match cs.dropWhile (· ≠ '>') with
  | _ :: rest => if isName name then some (.named name, rest) else none
  | [] => none

/-- The change of mode that ends at a colon, and then is one for a group, or at a parenthesis. -/
def changed? (m : Mode) (cs : List Char) : Option (Opening × List Char) :=
  let letters := cs.takeWhile fun c => c ≠ ':' && c ≠ ')'
  (m.change? letters).bind fun mode =>
    match cs.dropWhile fun c => c ≠ ':' && c ≠ ')' with
    | ':' :: rest => some (.group mode, rest)
    | _ :: rest => if letters.isEmpty then none else some (.setMode mode, rest)
    | [] => none

/-- What a parenthesis begins, and what follows it. -/
def opening? (m : Mode) (cs : List Char) : Option (Opening × List Char) :=
  match m.skip cs with
  | '?' :: 'P' :: '<' :: cs => named? cs
  | '?' :: '<' :: cs => named? cs
  | '?' :: cs => changed? m cs
  | cs => some (.group m, cs)

/-- How far a pattern is read. -/
structure Reading where
  group : Group := {}
  /-- The groups around it, the innermost one first. -/
  outer : List Group := []
  names : List (List Char) := []

namespace Reading

/-- Go on with the group as it has become. -/
def withGroup (r : Reading) (g : Group) : Reading := { r with group := g }

/-- Read a part of so many levels. -/
def add (r : Reading) (levels : Nat) : Reading := r.withGroup (r.group.add levels)

/-- Enter a group. -/
def enter (r : Reading) (m : Mode) : Reading :=
  { r with group := { mode := m }, outer := r.group :: r.outer }

/-- Begin what a parenthesis begins.  No two groups have the same name. -/
def begin? (r : Reading) : Opening → Option Reading
  | .group mode => some (r.enter mode)
  | .named name =>
    if r.names.contains name then none
    else some { r.enter r.group.mode with names := name :: r.names }
  | .setMode mode => some (r.withGroup (r.group.setMode mode))

/-- Leave a group, which is a part of the one around it. -/
def leave? (r : Reading) : Option Reading :=
  match r.outer with
  | g :: outer => some { r with group := g.add (r.group.depth + 1), outer := outer }
  | [] => none

/-- Read a character that is not skipped, and perhaps some more. -/
def next? (r : Reading) (c : Char) (cs : List Char) : Option (Reading × List Char) :=
  if c = '(' then
    (opening? r.group.mode cs).bind fun (o, cs) => (r.begin? o).map fun r => (r, cs)
  else if c = ')' then r.leave?.map fun r => (r, cs)
  else if c = '|' then some (r.withGroup r.group.nextBranch, cs)
  else if c = '[' then (class? r.group.mode cs).map fun (levels, cs) => (r.add levels, cs)
  else if c = '?' ∨ c = '*' ∨ c = '+' then
    r.group.repeatLast?.map fun g =>
      (r.withGroup g, if cs.head? = some '?' then cs.tail else cs)
  else if c = '\x7b' then none
  else if c = '\\' then (escape? r.group.mode cs).map fun (_, cs) => (r.add 0, cs)
  else if c = '.' ∧ r.group.mode.unicode = false then none
  else some (r.add 0, cs)

/-- Read a text to its end.  Each step reads a character. -/
def read? (r : Reading) : Nat → List Char → Option Reading
  | steps, cs =>
    match steps, r.group.mode.skip cs with
    | _, [] => some r
    | 0, _ => none
    | steps + 1, c :: cs => (r.next? c cs).bind fun (r, cs) => r.read? steps cs

end Reading

/-- How many levels a pattern may have. -/
def maxDepth : Nat := 250

/-- Whether this is a pattern. -/
def isPattern (cs : List Char) : Bool :=
  (Reading.read? {} cs.length cs).any fun r => r.outer.isEmpty && r.group.depth ≤ maxDepth

/-- The characters that do not stand for themselves. -/
def special : List Char := ['(', ')', '|', '[', '?', '*', '+', '\x7b', '\\', '.']

theorem level_of_zeros {ds : List Nat} (h : ∀ d ∈ ds, d = 0) : level ds ≤ 1 := by
  have foldr_zero : ∀ ds : List Nat, (∀ d ∈ ds, d = 0) → ds.foldr max 0 = 0 := by
    intro ds
    induction ds with
    | nil => intro _; rfl
    | cons d ds ih =>
      intro h
      rw [List.foldr_cons, ih fun d hd => h d (List.mem_cons_of_mem _ hd), h d (by simp)]
      rfl
  match ds with
  | [] => simp [level]
  | [d] => simp [level, h d (by simp)]
  | a :: b :: ds => simp only [level, foldr_zero _ h]; omega

namespace Reading

theorem next?_of_plain (r : Reading) (cs : List Char) {c : Char} (h : c ∉ special) :
    r.next? c cs = some (r.add 0, cs) := by
  simp only [special, List.mem_cons, List.not_mem_nil, not_or] at h
  simp only [next?, h, if_false, false_and, or_self]

/-- Plain characters make parts that have no levels. -/
theorem read?_of_plain {cs : List Char} (h : ∀ c ∈ cs, c ∉ special) {r : Reading}
    (hm : r.group.mode.verbose = false) (hb : r.group.branches = [])
    (hp : ∀ d ∈ r.group.parts, d = 0) :
    ∃ r', r.read? cs.length cs = some r' ∧ r'.outer = r.outer ∧ r'.group.depth ≤ 1 := by
  induction cs generalizing r with
  | nil =>
    refine ⟨r, by simp [read?, Mode.skip, hm], rfl, ?_⟩
    simpa [Group.depth, hb, level] using level_of_zeros hp
  | cons c cs ih =>
    obtain ⟨r', hr, ho, hd⟩ := @ih (fun d hd => h d (List.mem_cons_of_mem _ hd)) (r.add 0) hm hb
      (by simpa [add, withGroup, Group.add] using hp)
    refine ⟨r', ?_, ho, hd⟩
    unfold read?
    simp [Mode.skip, hm, next?_of_plain r cs (h c (by simp)), hr]

end Reading

theorem isPattern_of_plain {cs : List Char} (h : ∀ c ∈ cs, c ∉ special) :
    isPattern cs = true := by
  obtain ⟨r, hr, ho, hd⟩ := Reading.read?_of_plain h (r := {}) rfl rfl (by simp)
  have : r.group.depth ≤ maxDepth := by simp only [maxDepth]; omega
  simp [isPattern, hr, ho, this]

end BulkImport.Logging.Pattern
