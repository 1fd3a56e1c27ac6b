import BulkImport.Text.Numeral
import BulkImport.Text.Vocabulary

/-!
# JSON values

The values a document can hold, and the readings of a value as one of the library's own types.  A
reading gives nothing when the value does not fit.  Whole numbers fit a field; a number written
with a fraction or an exponent, a negative zero and a number beyond 64 bits never do.
-/

namespace BulkImport

/-- A JSON value. -/
inductive Json where
  | null
  | bool (b : Bool)
  /-- A whole number between `-2^63` and `2^64 - 1`, written without fraction or exponent. -/
  | integer (n : Int)
  /-- Any other number, as it was written. -/
  | decimal (literal : String)
  | text (s : String)
  /-- A text, or an object with a key, that is well formed but holds half a surrogate pair. -/
  | unreadable
  | list (items : List Json)
  /-- The members in the order they were written, a repeated key included. -/
  | object (members : List (String × Json))

namespace Json

instance : Inhabited Json := ⟨null⟩

/-- The text of a text value. -/
def text? : Json → Option String
  | text s => some s
  | _ => none

/-- The truth value. -/
def bool? : Json → Option Bool
  | bool b => some b
  | _ => none

/-- The whole number. -/
def integer? : Json → Option Int
  | integer n => some n
  | _ => none

/-- The whole number, if it fits 64 bits with sign. -/
def int64? (j : Json) : Option Int64 :=
  j.integer?.bind Int64.ofInt?

/-- The natural number below a bound, if it is one. -/
def natural? : Json → Option Nat
  | integer (.ofNat n) => some n
  | _ => none

/-- The natural number, if it fits 64 bits. -/
def uint64? (j : Json) : Option UInt64 :=
  j.natural?.bind UInt64.ofNat?

/-- The natural number, if it fits 32 bits. -/
def uint32? (j : Json) : Option UInt32 :=
  j.natural?.bind UInt32.ofNat?

/-- The items of a list. -/
def list? : Json → Option (List Json)
  | list items => some items
  | _ => none

/-- The members of an object. -/
def members? : Json → Option (List (String × Json))
  | object members => some members
  | _ => none

/-- Every item of a list read the same way. -/
def listOf? {α : Type} (read : Json → Option α) (j : Json) : Option (List α) :=
  j.list?.bind fun items => items.mapM read

/-- Null for nothing, otherwise as `read` says. -/
def nullable? {α : Type} (read : Json → Option α) : Json → Option (Option α)
  | null => some none
  | j => (read j).map some

/-- How the absence of a payload may be written beside a word: as null, or, where the record
around it is held back before it is read, also as the empty object. -/
inductive Payload where
  | nullOnly
  | nullOrEmpty

/-- Whether a value stands for no payload. -/
def Payload.isAbsent : Payload → Json → Bool
  | _, .null => true
  | nullOrEmpty, .object [] => true
  | _, _ => false

/-- A word of a vocabulary: its text, or an object with the word as only key and no payload. -/
def word? {α : Type} [Vocabulary α] (payload : Payload) : Json → Option α
  | text s => Vocabulary.ofWord? s
  | object [(s, p)] => if payload.isAbsent p then Vocabulary.ofWord? s else none
  | _ => none

/-- The members of a record: those of an object, or the items of a list as the values of the
fields in order, `needed` of them at least. -/
def record? (fields : List String) (needed : Nat) : Json → Option (List (String × Json))
  | object members => some members
  | list items =>
    if needed ≤ items.length ∧ items.length ≤ fields.length then some (fields.zip items) else none
  | _ => none

/-- The members with another value under a key, which comes last if it is new. -/
def setMember (key : String) (j : Json) : List (String × Json) → List (String × Json)
  | [] => [(key, j)]
  | (k, old) :: rest => if k = key then (key, j) :: rest else (k, old) :: setMember key j rest

mutual

/-- A value laid over another: objects are laid over objects key by key, and everything else takes
the place of what was there. -/
def overlay (base : Json) : Json → Json
  | object members =>
    match base with
    | object baseMembers => object (overlayMembers baseMembers members)
    | _ => object members
  | j => j

/-- The members of an object with others laid over them, one after the other. -/
def overlayMembers (baseMembers : List (String × Json)) :
    List (String × Json) → List (String × Json)
  | [] => baseMembers
  | (key, j) :: rest =>
    let value := overlay ((baseMembers.lookup key).getD null) j
    overlayMembers (setMember key value baseMembers) rest

end

/-- The one value under a key; nothing is found twice (`some none` is an absent key). -/
def member? (members : List (String × Json)) (key : String) : Option (Option Json) :=
  match members.filter (·.1 == key) with
  | [] => some none
  | [(_, j)] => some (some j)
  | _ => none

/-- A member that must be there. -/
def required? {α : Type} (members : List (String × Json)) (key : String)
    (read : Json → Option α) : Option α :=
  (member? members key).bind fun found => found.bind read

/-- A member with a value of its own when it is not there. -/
def defaulted? {α : Type} (members : List (String × Json)) (key : String)
    (read : Json → Option α) (absent : α) : Option α :=
  (member? members key).bind fun found =>
    match found with
    | none => some absent
    | some j => read j

/-- A member that may be missing or null. -/
def optional? {α : Type} (members : List (String × Json)) (key : String)
    (read : Json → Option α) : Option (Option α) :=
  defaulted? members key (nullable? read) none

/-- A member that is written only when there is a value for it. -/
def optionalMember {α : Type} (key : String) (write : α → Json) (value : Option α) :
    List (String × Json) :=
  match value with
  | none => []
  | some a => [(key, write a)]

/-- The value of an optional field that is written as null when there is none. -/
def ofNullable {α : Type} (write : α → Json) : Option α → Json
  | none => null
  | some a => write a

/-- The word for a value. -/
def ofWord {α : Type} [Vocabulary α] (a : α) : Json := text (Vocabulary.word a)

end Json

end BulkImport
