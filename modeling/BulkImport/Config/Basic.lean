import BulkImport.Config.Environment
import BulkImport.Text.Vocabulary

/-!
# Configuration

What the importer is told before it starts: the database of the jobs, the connectors to the
databases that are filled, how imports are done, and how often.  A configuration is valid when no
rule of `Config.fault?` is broken; the first broken rule is the one that is reported.
-/

namespace BulkImport

/-- The pool of connections to the database of the jobs, and of every connector. -/
structure DatabaseConfig where
  url : String := "postgresql://localhost/geoload"
  maxConnections : UInt32 := 10
  minConnections : UInt32 := 1
  connectTimeoutSecs : UInt64 := 10
  idleTimeoutSecs : UInt64 := 600
  applicationName : String := "geoload"
deriving DecidableEq

/-- A database that can be filled. -/
structure ConnectorConfig where
  id : String
  url : String
deriving DecidableEq

/-- How imports are done. -/
structure ImportConfig where
  schema : String := "public"
  /-- Tables have the layout of the first version. -/
  legacyLayout : Bool := false
  /-- The names of the segments that are indexed, in building order. -/
  indexSegments : List String := ["head", "p0", "root"]
  indexStatusSchema : String := "xyz_config"
  indexStatusTable : String := "xyz_idxs_status"
  /-- Rows go through a view with two columns. -/
  useViewFacade : Bool := false
  author : String := "ANONYMOUS"
deriving DecidableEq

/-- Where the features of a space are counted. -/
structure StatisticsConfig where
  endpoint : String := "http://localhost:8080/hub"
  timeoutSecs : UInt64 := 30
deriving DecidableEq

/-- Where uploaded files lie. -/
structure StorageConfig where
  endpoint : Option String := none
  region : String := "eu-west-1"
  accessKey : Option String := none
  secretKey : Option String := none
  pathStyle : Bool := false
deriving DecidableEq

/-- Where jobs are kept. -/
inductive JobStoreKind where
  | postgres
  | memory
deriving DecidableEq

/-- The word for a place where jobs are kept. -/
def JobStoreKind.name : JobStoreKind → String
  | .postgres => "postgres"
  | .memory => "memory"

instance : Vocabulary JobStoreKind where
  all := [.postgres, .memory]
  word := JobStoreKind.name
  aliases
    | .postgres => ["postgresql", "jdbc"]
    | .memory => ["inmemory"]

/-- How often jobs are looked for, and how many run at once. -/
structure SchedulerConfig where
  pollIntervalSecs : UInt64 := 10
  maxConcurrentJobs : UInt64 := 4
  /-- The number of running statements at which a connector is left alone; none does not count. -/
  maxConnectorQueries : UInt64 := 16
  jobStore : JobStoreKind := .postgres
deriving DecidableEq

/-- Everything the importer is told. -/
structure Config where
  database : DatabaseConfig := {}
  connectors : List ConnectorConfig := [⟨"default", "postgresql://localhost/geoload"⟩]
  importing : ImportConfig := {}
  statistics : StatisticsConfig := {}
  storage : StorageConfig := {}
  scheduler : SchedulerConfig := {}
deriving DecidableEq

namespace Config

/-- Why a configuration is refused. -/
inductive Error where
  | variable (e : Environment.Error)
  | connectorEntry (entry : String)
  | jobStore (value : String)
  | noDatabaseUrl
  | noConnections
  | minAboveMax (min max : UInt32)
  | noConnector
  | incompleteConnector
  | repeatedConnector (id : String)
  | noSegment
  | noConcurrentJobs
  | endpointScheme (endpoint : String)
deriving DecidableEq

/-- What is reported for a configuration that is refused. -/
def Error.message : Error → String
  | .variable e => e.message
  | .connectorEntry entry => "Connector entry '" ++ entry ++ "' is not id=url"
  | .jobStore value => "Invalid job store: " ++ value
  | .noDatabaseUrl => "Database URL cannot be empty"
  | .noConnections => "Database max_connections must be greater than 0"
  | .minAboveMax min max =>
    "Database min_connections (" ++ toString min.toNat ++
      ") cannot be greater than max_connections (" ++ toString max.toNat ++ ")"
  | .noConnector => "At least one connector must be configured"
  | .incompleteConnector => "Connector entries need both an id and a url"
  | .repeatedConnector id => "Connector '" ++ id ++ "' is configured twice"
  | .noSegment => "GEOLOAD_INDEX_SEGMENTS must name at least one segment"
  | .noConcurrentJobs => "GEOLOAD_MAX_CONCURRENT_JOBS must be greater than 0"
  | .endpointScheme endpoint =>
    "HUB_ENDPOINT must start with http:// or https://, got '" ++ endpoint ++ "'"

/-- What is wrong with the first faulty connector, `seen` being the names before it. -/
def connectorFault? (seen : List String) : List ConnectorConfig → Option Error
  | [] => none
  | c :: cs =>
    if c.id = "" ∨ c.url = "" then some .incompleteConnector
    else if c.id ∈ seen then some (.repeatedConnector c.id)
    else connectorFault? (c.id :: seen) cs

/-- The first rule that a configuration breaks. -/
def fault? (c : Config) : Option Error :=
  if c.database.url = "" then some .noDatabaseUrl
  else if c.database.maxConnections = 0 then some .noConnections
  else if c.database.maxConnections < c.database.minConnections then
    some (.minAboveMax c.database.minConnections c.database.maxConnections)
  else if c.connectors = [] then some .noConnector
  else if let some e := connectorFault? [] c.connectors then some e
  else if c.importing.indexSegments = [] then some .noSegment
  else if c.scheduler.maxConcurrentJobs = 0 then some .noConcurrentJobs
  else if "http://".isPrefixOf c.statistics.endpoint ||
      "https://".isPrefixOf c.statistics.endpoint then none
  else some (.endpointScheme c.statistics.endpoint)

/-- The configuration, if it is valid. -/
def validate (c : Config) : Except Error Config :=
  match c.fault? with
  | none => .ok c
  | some e => .error e

end Config

end BulkImport
