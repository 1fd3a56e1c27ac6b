import BulkImport.Config.Basic
import BulkImport.Json.Document
import BulkImport.Store.Repository
import BulkImport.Web.Exchange

/-!
# Counting the features of a space

The service that knows how many features a space holds is asked over the web.  Its answer is an
object with the count in it; a count that is missing is no error, an answer of another shape is.
-/

namespace BulkImport.Statistics

open BulkImport.Web (Request Url)

/-- Why a count is not known. -/
inductive Failure where
  /-- The service cannot be asked under its address. -/
  | address (e : Web.AddressError)
  /-- The service answers with another status than success. -/
  | status (space : String) (code : Nat)
  /-- The answer cannot be read. -/
  | body
deriving DecidableEq

/-- What is reported where a count is not known. -/
def Failure.message : Failure → String
  | .address _ => "builder error"
  | .status space code =>
    "statistics for space '" ++ space ++ "' returned " ++ Web.describeStatus code
  | .body => "error decoding response body"

/-- The error of the repository that the failure of a count is. -/
def Failure.toError (f : Failure) : Store.Error := .statistics f.message

/-- Where the features of a space are counted.  The name of the space goes in as it is. -/
def address (endpoint space : String) : String :=
  String.ofList (Text.dropEnd (· = '/') endpoint.toList) ++ "/spaces/" ++ space ++ "/statistics"

/-- The request for a count that is not taken from a cache. -/
def request (c : StatisticsConfig) (space : String) : Except Failure Request :=
  match Url.parse (address c.endpoint space) with
  | .error e => .error (.address e)
  | .ok url => .ok ((url.withSetting "skipCache" "true").request "GET")

/-- A number in a record of its own. -/
def value? (j : Json) : Option (Option Int64) := do
  let ms ← j.record? ["value"] 1
  Json.optional? ms "value" Json.int64?

/-- The count in an answer, `some none` where there is none. -/
def count? (j : Json) : Option (Option Int64) := do
  let ms ← j.record? ["count"] 1
  let count ← Json.optional? ms "count" value?
  return count.join

/-- The count that the service answers with; only a body can tell one. -/
def answer (space : String) (code : Nat) (body : String) : Except Failure (Option Int64) :=
  if !Web.isSuccess code then .error (.status space code)
  else
    match (Json.parse? (if code = 204 then "" else body)).bind count? with
    | some count => .ok count
    | none => .error .body

end BulkImport.Statistics
