import BulkImport.Web.Exchange

/-!
# Looking up uploaded files

Object storage is asked for the head of an object under its bucket and key.  The size of an object
is what the answer says of its length; an object that is not found has none.
-/

namespace BulkImport.Storage

/-- Why nothing is known of an object. -/
inductive Failure where
  /-- There is no request for an empty bucket or key. -/
  | unnamed
  /-- Storage answers neither with success nor that there is no such object. -/
  | status (code : Nat)
deriving DecidableEq

/-- What is reported where nothing is known of an object. -/
def Failure.message : Failure → String
  | .unnamed => "Object storage request failed: failed to construct request"
  | .status _ => "Object storage request failed: service error"

/-- Whether a character never stands in percent. -/
def isUnreserved (c : Char) : Bool := c.isAlphanum || ['-', '.', '_', '~'].contains c

/-- The request for the head of an object; the slashes in its key divide the path. -/
def request (bucket key : String) : Except Failure Web.Request :=
  if bucket = "" ∨ key = "" then .error .unnamed
  else
    .ok { method := "HEAD"
          path := "/" ++ Web.Url.write isUnreserved bucket.toList ++ "/" ++
            Web.Url.write (fun c => isUnreserved c || c == '/') key.toList }

/-- The size that storage answers with. -/
def answer (code : Nat) (length : Option UInt64) : Except Failure (Option UInt64) :=
  if Web.isSuccess code then .ok (some (length.getD 0))
  else if code = 404 then .ok none
  else .error (.status code)

end BulkImport.Storage
