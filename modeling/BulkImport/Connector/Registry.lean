import BulkImport.Config.Basic
import BulkImport.Database.Error
import BulkImport.Text.Dictionary
import BulkImport.Web.Url

/-!
# Connectors

A connector is a pool of connections to a database that can be filled.  The pools are made from the
configured addresses and found by the connector's name, where the last one configured counts; each
tells its database under which name its sessions run.
-/

namespace BulkImport.Connector

open BulkImport.Web (Host Url Percent.decode Percent.decode?)

/-- Why nothing can be connected to at an address. -/
inductive Fault where
  | address (e : Web.AddressError)
  /-- A part of the address is no text in UTF-8. -/
  | notText (part : String)
  | badSetting (name value : String)
deriving DecidableEq

/-- What is reported for an address that nothing can be connected to at. -/
def Fault.message : Fault → String
  | .address e => e.message
  | .notText part => "the " ++ part ++ " is not valid UTF-8"
  | .badSetting name value => "unknown value '" ++ value ++ "' for '" ++ name ++ "'"

/-- The ways to secure a connection. -/
def sslModes : List String :=
  ["disable", "allow", "prefer", "require", "verify-ca", "verify-full"]

/-- Whether a setting has a value that can be read; settings of other names are not looked at. -/
def admitsSetting (name value : String) : Bool :=
  if name = "sslmode" ∨ name = "ssl-mode" then sslModes.contains (Text.fold value)
  else if name = "statement-cache-capacity" then
    ((Text.unsigned? value.toList).bind UInt64.ofNat?).isSome
  else if name = "port" then (Text.unsigned? value.toList).any (· < 65536)
  else if name = "hostaddr" then
    (Host.dotted? value.toList).isSome || (Host.ipv6? value.toList).isSome
  else true

/-- Whether a part of an address is a text. -/
def isText (part : String) : Bool := (Percent.decode? part.toList).isSome

/-- Whether a host is the path of a socket. -/
def isSocket : Option Host → Bool
  | some (.named name) => (Percent.decode name.toList).head? = some 0x2F
  | _ => false

/-- The name of a host that has one. -/
def hostName : Option Host → String
  | some (.named name) => name
  | _ => ""

/-- The first thing in an address that keeps it from being connected to. -/
def fault? (url : Url) : Option Fault :=
  if isSocket url.host && !isText (hostName url.host) then some (.notText "host")
  else if !isText url.username then some (.notText "user")
  else if !isText (url.password.getD "") then some (.notText "password")
  else if !isText url.path then some (.notText "database")
  else (url.settings.find? fun (name, value) => !admitsSetting name value).map
    fun (name, value) => .badSetting name value

/-- An address that can be connected to. -/
def address (s : String) : Except Fault Url :=
  match Url.parse s with
  | .error e => .error (.address e)
  | .ok url =>
    match fault? url with
    | some f => .error f
    | none => .ok url

/-- The connections to one database. -/
structure Pool where
  url : Url
  /-- The name that its sessions run under. -/
  sessionName : String
  isClosed : Bool := false
deriving DecidableEq

/-- Why a call through a pool fails before it reaches the database. -/
def Pool.refusal? (pool : Pool) : Option Database.Fault :=
  if pool.isClosed then some .poolClosed else none

/-- The pools of all connectors. -/
structure Registry where
  /-- The name of the importer among the sessions of a database. -/
  application : String
  pools : Dictionary Pool := .empty

namespace Registry

/-- The name that the sessions of a connector run under. -/
def sessionName (r : Registry) (id : String) : String := r.application ++ "_import_" ++ id

/-- The registry with one more connector. -/
def add (r : Registry) (c : ConnectorConfig) : Except Database.Error Registry :=
  match address c.url with
  | .error f =>
    .error (.configuration ("connector '" ++ c.id ++ "': error with configuration: " ++ f.message))
  | .ok url =>
    .ok { r with pools := r.pools.insert c.id { url := url, sessionName := r.sessionName c.id } }

/-- The registry of the configured connectors. -/
def ofConfig (database : DatabaseConfig) (connectors : List ConnectorConfig) :
    Except Database.Error Registry :=
  connectors.foldlM add { application := database.applicationName }

/-- The names of the connectors, in order. -/
def ids (r : Registry) : List String := r.pools.keys

/-- The pool of a connector. -/
def find (r : Registry) (id : String) : Except Database.Error Pool :=
  match r.pools.find? id with
  | some pool => .ok pool
  | none => .error (.unknownConnector id)

/-- The registry with all pools closed. -/
def close (r : Registry) : Registry :=
  { r with pools := r.pools.mapValues fun _ pool => { pool with isClosed := true } }

end Registry

end BulkImport.Connector
