import BulkImport.Json.Token

/-!
# JSON documents

The value that the tokens of a text spell.  The containers that are still open lie on a stack, and
what may come next is kept beside it, so one pass over the tokens builds the value at any depth of
nesting.
-/

namespace BulkImport.Json

/-- A container that is still open, with its content so far in reverse.  The key of a member is
missing where it cannot be read. -/
inductive Frame where
  | list (items : List Json)
  | object (members : List (Option String × Json))

/-- What may come next. -/
inductive Expected where
  | value
  /-- A value, or the end of a list that was just opened. -/
  | valueOrEnd
  | key
  /-- A key, or the end of an object that was just opened. -/
  | keyOrEnd
  | colon (key : Option String)
  | memberValue (key : Option String)
  /-- A comma, or the end of the innermost container. -/
  | separator
  /-- Nothing: the document is this value. -/
  | nothing (value : Json)

/-- The object with these members, given in reverse. -/
def closeObject (members : List (Option String × Json)) : Json :=
  match members.reverse.mapM fun (key, value) => key.map (·, value) with
  | some members => object members
  | none => unreadable

/-- The key that a scalar can be. -/
def key? : Json → Option (Option String)
  | text s => some (some s)
  | unreadable => some none
  | _ => none

/-- A document that is being built. -/
structure Builder where
  /-- The open containers, the innermost first, each with the key it will stand under when it is
  itself a member. -/
  frames : List (Option (Option String) × Frame)
  expected : Expected

/-- The builder before the first token. -/
def Builder.start : Builder := ⟨[], .value⟩

/-- The builder after a value is finished; `place` is the key it stands under, if it is a
member. -/
def Builder.finish (frames : List (Option (Option String) × Frame))
    (place : Option (Option String)) (value : Json) : Option Builder :=
  match place, frames with
  | none, [] => some ⟨[], .nothing value⟩
  | none, (p, .list items) :: rest => some ⟨(p, .list (value :: items)) :: rest, .separator⟩
  | some key, (p, .object members) :: rest =>
    some ⟨(p, .object ((key, value) :: members)) :: rest, .separator⟩
  | _, _ => none

/-- The builder after a token that opens, or is, a value. -/
def Builder.value (b : Builder) (place : Option (Option String)) : Token → Option Builder
  | .leftBracket => some ⟨(place, .list []) :: b.frames, .valueOrEnd⟩
  | .leftBrace => some ⟨(place, .object []) :: b.frames, .keyOrEnd⟩
  | .scalar j => Builder.finish b.frames place j
  | _ => none

/-- The builder after the innermost container is closed. -/
def Builder.close (b : Builder) : Token → Option Builder
  | .rightBracket =>
    match b.frames with
    | (place, .list items) :: rest => Builder.finish rest place (list items.reverse)
    | _ => none
  | .rightBrace =>
    match b.frames with
    | (place, .object members) :: rest => Builder.finish rest place (closeObject members)
    | _ => none
  | _ => none

/-- The builder after one more token. -/
def Builder.step (b : Builder) (t : Token) : Option Builder :=
  match b.expected, t with
  | .value, t => b.value none t
  | .valueOrEnd, .rightBracket => b.close .rightBracket
  | .valueOrEnd, t => b.value none t
  | .keyOrEnd, .rightBrace => b.close .rightBrace
  | .keyOrEnd, .scalar j => (key? j).map fun k => ⟨b.frames, .colon k⟩
  | .key, .scalar j => (key? j).map fun k => ⟨b.frames, .colon k⟩
  | .colon k, .colon => some ⟨b.frames, .memberValue k⟩
  | .memberValue k, t => b.value (some k) t
  | .separator, .comma =>
    match b.frames with
    | (_, .list _) :: _ => some ⟨b.frames, .value⟩
    | (_, .object _) :: _ => some ⟨b.frames, .key⟩
    | [] => none
  | .separator, t => b.close t
  | _, _ => none

/-- The value of a whole JSON text. -/
def parse? (s : String) : Option Json := do
  let tokens ← tokens? s.toList
  let b ← tokens.foldlM Builder.step Builder.start
  match b.expected with
  | .nothing value => some value
  | _ => none

end BulkImport.Json
