import BulkImport.Sql.Statement

/-!
# Templates

Statement texts with holes.  A hole is a variable, filled with the rendering of a value, or a
fragment, filled with the expansion of another template attached to the same one.  A fragment sees
the variables of the templates around it, its own first.  A text is cut into its pieces before any
hole of it is filled, so a value that looks like a hole stays what it is.
-/

namespace BulkImport.Sql

/-- A value that may fill a variable. -/
inductive Value where
  | identifier (i : Identifier)
  | literal (s : String)
  | integer (n : Int64)
  | boolean (b : Bool)
deriving DecidableEq

/-- The characters of a literal with every quote doubled. -/
def doubleQuotes (cs : List Char) : List Char :=
  cs.flatMap fun c => if c = '\'' then ['\'', '\''] else [c]

/-- The text of a value in a statement. -/
def Value.render : Value → String
  | .identifier i => i.quoted
  | .literal s => "'" ++ String.ofList (doubleQuotes s.toList) ++ "'"
  | .integer n => toString n.toInt
  | .boolean b => if b then "true" else "false"

/-- A statement text with holes, and what its holes are filled with.  Of two bindings of one name
the first holds. -/
structure Template where
  text : String
  bindings : List (String × Value) := []
  fragments : List (String × Template) := []
  params : List String := []

instance : Inhabited Template := ⟨{ text := "" }⟩

/-- Why a template does not expand. -/
inductive TemplateError where
  | unresolvedVariable (name : String)
  | unresolvedFragment (name : String)
  | tooDeep
deriving DecidableEq

/-- A variable hole as it is written. -/
def variableHole (name : String) : String := "$\x7b" ++ name ++ "\x7d"

/-- A fragment hole as it is written. -/
def fragmentHole (name : String) : String := "$\x7b\x7b" ++ name ++ "\x7d\x7d"

/-- What is reported for a template that does not expand. -/
def TemplateError.message : TemplateError → String
  | .unresolvedVariable name => "Unresolved variable '" ++ variableHole name ++ "'"
  | .unresolvedFragment name => "Unresolved fragment '" ++ fragmentHole name ++ "'"
  | .tooDeep => "Fragments nested deeper than 16 levels"

/-- A hole of a template. -/
inductive Hole where
  | variable (name : String)
  | fragment (name : String)
deriving DecidableEq

/-- The characters of a hole's name. -/
def isHoleChar (c : Char) : Bool := c.isAlphanum || c == '_'

/-- A hole's name at the front of a text, which is not empty, and the text after it. -/
def holeName? (cs : List Char) : Option (List Char × List Char) :=
  match cs.takeWhile isHoleChar with
  | [] => none
  | name => some (name, cs.dropWhile isHoleChar)

/-- The fragment hole or the variable hole at the front of a text, and the number of characters it
has after its first one. -/
def hole? : List Char → Option (Hole × Nat)
  | '$' :: '\x7b' :: '\x7b' :: cs =>
    match holeName? cs with
    | some (name, '\x7d' :: '\x7d' :: _) => some (.fragment (String.ofList name), name.length + 4)
    | _ => none
  | '$' :: '\x7b' :: cs =>
    match holeName? cs with
    | some (name, '\x7d' :: _) => some (.variable (String.ofList name), name.length + 2)
    | _ => none
  | _ => none

/-- What a template text is made of. -/
inductive Piece where
  | char (c : Char)
  | hole (h : Hole)
deriving DecidableEq

/-- The pieces of a text, read once from left to right; `skip` more characters belong to the hole
that was read last. -/
def piecesFrom : (skip : Nat) → List Char → List Piece
  | _, [] => []
  | skip + 1, _ :: cs => piecesFrom skip cs
  | 0, c :: cs =>
    match hole? (c :: cs) with
    | some (hole, more) => .hole hole :: piecesFrom more cs
    | none => .char c :: piecesFrom 0 cs

/-- The pieces of a text, read once from left to right. -/
def pieces (text : String) : List Piece := piecesFrom 0 text.toList

/-- The text with each of its holes, from left to right, replaced by what `resolve` gives for it;
the first hole that cannot be resolved decides the error. -/
def fill (resolve : Hole → Except TemplateError (List Char)) :
    List Piece → Except TemplateError (List Char)
  | [] => .ok []
  | .char c :: ps => do
    let after ← fill resolve ps
    return c :: after
  | .hole hole :: ps => do
    let filled ← resolve hole
    let after ← fill resolve ps
    return filled ++ after

namespace Template

/-- The template with text added at its end. -/
def append (t : Template) (text : String) : Template :=
  { t with text := t.text ++ text }

/-- The template with a variable bound, in place of an earlier binding of the name. -/
def setVariable (t : Template) (name : String) (value : Value) : Template :=
  { t with bindings := (name, value) :: t.bindings }

/-- The template with a fragment attached, in place of an earlier one of the name. -/
def setFragment (t : Template) (name : String) (fragment : Template) : Template :=
  { t with fragments := (name, fragment) :: t.fragments }

/-- The template with one more positional parameter. -/
def bind (t : Template) (param : String) : Template :=
  { t with params := t.params ++ [param] }

/-- How many templates may be nested: the outermost one and sixteen levels of fragments. -/
def maxLevels : Nat := 17

/-- The expansion of a template inside templates that bind `inherited`, at most `levels` templates
being nested from here on. -/
def expand : (levels : Nat) → (inherited : List (String × Value)) → Template →
    Except TemplateError (List Char)
  | 0, _, _ => .error .tooDeep
  | levels + 1, inherited, t =>
    let scope := t.bindings ++ inherited
    fill (fun
      | .variable name =>
        match scope.lookup name with
        | some value => .ok value.render.toList
        | none => .error (.unresolvedVariable name)
      | .fragment name =>
        match t.fragments.lookup name with
        | some fragment => expand levels scope fragment
        | none => .error (.unresolvedFragment name)) (pieces t.text)

/-- The statement that the template makes, with its own parameters. -/
def substitute (t : Template) : Except TemplateError Statement := do
  let text ← expand maxLevels [] t
  return ⟨String.ofList text, t.params⟩

end Template

/-- Why a statement cannot be built: one of its names, or its template. -/
inductive BuildError where
  | identifier (e : IdentifierError)
  | template (e : TemplateError)
deriving DecidableEq

/-- What is reported for a statement that cannot be built. -/
def BuildError.message : BuildError → String
  | .identifier e => e.message
  | .template e => e.message

/-- The statement of a template, where the names it needs were found already. -/
def Template.build (t : Template) : Except BuildError Statement :=
  t.substitute.mapError .template

/-- A name that a statement needs. -/
def Identifier.build (name : Except IdentifierError Identifier) : Except BuildError Identifier :=
  name.mapError .identifier

end BulkImport.Sql
