import BulkImport.Logging.Config
import BulkImport.Logging.Pattern
import BulkImport.Text.Decimal

/-!
# Log directives

A filter is a list of directives between commas.  Each is a target, a span in square brackets, or a
target and its span, and it may end with an equals sign and a level.  A target can be any text that
begins like a name, so a level that stands alone is a directive too.  A span may have a field in
braces, and a field may have a value, which is compared as a number or as a pattern.  The first
directive that is none of these makes the filter bad.
-/

namespace BulkImport.Logging

/-- Whether this is the name or the number of a level. -/
def isLevel (cs : List Char) : Bool :=
  match Text.unsigned? cs with
  | some n => n ≤ 5
  | none =>
    Text.fold (String.ofList cs) ∈ ["trace", "debug", "info", "warn", "error", "off"]

/-- Whether a target may begin with a character. -/
def beginsTarget (c : Char) : Bool :=
  c == '-' || c == ':' || c == '_' || Text.isAlphanumeric c

/-- Whether this is the name of a field, or a name and a value behind an equals sign.  What stands
behind another one is not looked at. -/
def isField (cs : List Char) : Bool :=
  match Text.piecesChars '=' cs with
  | _ :: value :: _ => Text.isNumber value || Pattern.isPattern value
  | _ => !cs.isEmpty

/-- What follows a span, of which the opening bracket was read.  Its name may be followed by a field
in braces. -/
def afterSpan? (cs : List Char) : Option (List Char) :=
  match cs.dropWhile fun c => c ≠ ']' && c ≠ '\x7b' with
  | ']' :: rest => some rest
  | '\x7b' :: rest =>
    match rest.dropWhile (· ≠ '\x7d') with
    | '\x7d' :: ']' :: after =>
      if isField (rest.takeWhile (· ≠ '\x7d')) then some after else none
    | _ => none
  | _ => none

/-- Whether this is nothing, or an equals sign with a level or with nothing behind it. -/
def isLevelPart : List Char → Bool
  | [] => true
  | '=' :: level => level.isEmpty || isLevel level
  | _ => false

/-- Whether this is a directive. -/
def isDirective (s : String) : Bool :=
  match s.toList with
  | [] => false
  | '[' :: span => (afterSpan? span).any isLevelPart
  | c :: cs =>
    beginsTarget c &&
      match cs.dropWhile fun c => c ≠ '=' && c ≠ '[' with
      | '[' :: span => (afterSpan? span).any isLevelPart
      | rest => isLevelPart rest

/-- Why a filter is refused: its first bad directive. -/
structure BadDirective where
  directive : String
deriving DecidableEq

/-- What is reported for a bad directive. -/
def BadDirective.message (e : BadDirective) : String :=
  "bad directive '" ++ e.directive ++ "'"

/-- Whether a filter, if there is one, holds directives only. -/
def checkFilter (filter : Option String) : Except BadDirective Unit :=
  match (filter.map Environment.items).getD [] |>.find? fun d => !isDirective d with
  | some d => .error ⟨d⟩
  | none => .ok ()

end BulkImport.Logging
