/-!
# Database errors

Why a call to a target database gives no answer.  A fault of the driver means a lost connection
exactly when no connection could be had or kept (`Fault.isDisconnect`).
-/

namespace BulkImport.Database

/-- A fault that the database driver reports. -/
inductive Fault where
  | poolTimedOut
  | poolClosed
  | rowNotFound
  | workerCrashed
  | io (message : String)
  | tls (message : String)
  | protocol (message : String)
  | configuration (message : String)
  | columnNotFound (name : String)
deriving DecidableEq

/-- The driver's own words for a fault. -/
def Fault.message : Fault → String
  | .poolTimedOut => "pool timed out while waiting for an open connection"
  | .poolClosed => "attempted to acquire a connection on a closed pool"
  | .rowNotFound =>
    "no rows returned by a query that expected to return at least one row"
  | .workerCrashed => "attempted to communicate with a crashed background worker"
  | .io m => "error communicating with database: " ++ m
  | .tls m => "error occurred while attempting to establish a TLS connection: " ++ m
  | .protocol m => "encountered unexpected or invalid data: " ++ m
  | .configuration m => "error with configuration: " ++ m
  | .columnNotFound name => "no column found for name: " ++ name

/-- Whether the fault means that there is no connection. -/
def Fault.isDisconnect : Fault → Bool
  | .poolTimedOut | .poolClosed | .io _ | .tls _ => true
  | _ => false

/-- Why a call gives no answer. -/
inductive Error where
  /-- No connection could be handed out. -/
  | noConnection (message : String)
  /-- The database refused or broke off the query. -/
  | query (fault : Fault)
  /-- No client is registered under the connector's name. -/
  | unknownConnector (name : String)
  /-- The answer has another shape than the query asks for. -/
  | unexpectedRow (message : String)
  /-- The connection settings are invalid or missing. -/
  | configuration (message : String)
deriving DecidableEq

/-- The error that a fault of the driver amounts to. -/
def Error.ofFault (f : Fault) : Error :=
  if f.isDisconnect then .noConnection f.message else .query f

/-- What is reported for an error. -/
def Error.message : Error → String
  | .noConnection m => "No database connection available: " ++ m
  | .query f => "Database query failed: " ++ f.message
  | .unknownConnector name => "Unknown connector '" ++ name ++ "'"
  | .unexpectedRow m => "Unexpected result: " ++ m
  | .configuration m =>
    "Database configuration error: " ++ m ++ ". Check DATABASE_URL and GEOLOAD_CONNECTORS."

/-- The only text that a query for a text gives: that of the first row. -/
def firstText (statementText : String) : List String → Except Error String
  | [] => .error (.unexpectedRow ("no rows for: " ++ statementText))
  | row :: _ => .ok row

end BulkImport.Database
