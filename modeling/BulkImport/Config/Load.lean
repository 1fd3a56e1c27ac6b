import BulkImport.Config.Basic

/-!
# Loading the configuration

The configuration that the environment describes, with defaults for what is not set.  Connectors
are listed as `id=url` between semicolons; where none are listed, the database of the jobs is
filled itself.
-/

namespace BulkImport

/-- The connector of an entry.  Its url may hold further equals signs. -/
def ConnectorConfig.ofEntry (entry : String) : Except Config.Error ConnectorConfig :=
  match Text.cut '=' entry with
  | some (id, url) => .ok ⟨Text.trim id, Text.trim url⟩
  | none => .error (.connectorEntry entry)

/-- The connectors of a list of entries; blank entries mean nothing. -/
def ConnectorConfig.ofList (raw : String) : Except Config.Error (List ConnectorConfig) :=
  (((Text.pieces ';' raw).map Text.trim).filter (· ≠ "")).mapM ConnectorConfig.ofEntry

namespace Config

/-- The value of a variable as `parse` understands it, or a default. -/
def read {α : Type} (env : Environment) (name : String) (parse : String → Option α)
    (default : α) : Except Error α :=
  (env.parseOr name parse default).mapError .variable

/-- The connectors that are listed, or the one to the database of the jobs. -/
def readConnectors (env : Environment) (databaseUrl : String) :
    Except Error (List ConnectorConfig) :=
  match env.read? "GEOLOAD_CONNECTORS" with
  | some raw => ConnectorConfig.ofList raw
  | none => .ok [⟨"default", databaseUrl⟩]

/-- The pool settings in the environment. -/
def readDatabase (env : Environment) (url : String) : Except Error DatabaseConfig := do
  let defaults : DatabaseConfig := {}
  let maxConnections ←
    read env "DATABASE_MAX_CONNECTIONS" Environment.uint32? defaults.maxConnections
  let minConnections ←
    read env "DATABASE_MIN_CONNECTIONS" Environment.uint32? defaults.minConnections
  let connectTimeoutSecs ←
    read env "DATABASE_CONNECT_TIMEOUT" Environment.uint64? defaults.connectTimeoutSecs
  let idleTimeoutSecs ←
    read env "DATABASE_IDLE_TIMEOUT" Environment.uint64? defaults.idleTimeoutSecs
  let applicationName := env.readOr "GEOLOAD_APPLICATION_NAME" defaults.applicationName
  return { url := url, maxConnections, minConnections, connectTimeoutSecs, idleTimeoutSecs,
           applicationName }

/-- The import settings in the environment. -/
def readImporting (env : Environment) : Except Error ImportConfig := do
  let defaults : ImportConfig := {}
  let legacyLayout ← read env "GEOLOAD_LEGACY_LAYOUT" Environment.flag? defaults.legacyLayout
  let useViewFacade ← read env "GEOLOAD_VIEW_FACADE" Environment.flag? defaults.useViewFacade
  return { schema := env.readOr "GEOLOAD_SCHEMA" defaults.schema, legacyLayout, useViewFacade,
           indexSegments := Environment.items (env.readOr "GEOLOAD_INDEX_SEGMENTS" "head,p0,root"),
           indexStatusSchema :=
             env.readOr "GEOLOAD_INDEX_STATUS_SCHEMA" defaults.indexStatusSchema,
           indexStatusTable := env.readOr "GEOLOAD_INDEX_STATUS_TABLE" defaults.indexStatusTable,
           author := env.readOr "GEOLOAD_IMPORT_AUTHOR" defaults.author }

/-- The settings of the statistics service in the environment. -/
def readStatistics (env : Environment) : Except Error StatisticsConfig := do
  let defaults : StatisticsConfig := {}
  let timeoutSecs ← read env "HUB_TIMEOUT_SECS" Environment.uint64? defaults.timeoutSecs
  return { endpoint := env.readOr "HUB_ENDPOINT" defaults.endpoint, timeoutSecs }

/-- The settings of object storage in the environment. -/
def readStorage (env : Environment) : Except Error StorageConfig := do
  let defaults : StorageConfig := {}
  let pathStyle ← read env "S3_PATH_STYLE" Environment.flag? defaults.pathStyle
  return { endpoint := env.read? "S3_ENDPOINT", region := env.readOr "S3_REGION" defaults.region,
           accessKey := (env.read? "S3_ACCESS_KEY").or (env.read? "AWS_ACCESS_KEY_ID"),
           secretKey := (env.read? "S3_SECRET_KEY").or (env.read? "AWS_SECRET_ACCESS_KEY"),
           pathStyle }

/-- The place where jobs are kept. -/
def parseJobStore (v : String) : Except Error JobStoreKind :=
  match Vocabulary.ofSpelling? v with
  | some kind => .ok kind
  | none => .error (.jobStore v)

/-- The scheduler settings in the environment. -/
def readScheduler (env : Environment) : Except Error SchedulerConfig := do
  let defaults : SchedulerConfig := {}
  let pollIntervalSecs ←
    read env "GEOLOAD_POLL_INTERVAL" Environment.uint64? defaults.pollIntervalSecs
  let maxConcurrentJobs ←
    read env "GEOLOAD_MAX_CONCURRENT_JOBS" Environment.uint64? defaults.maxConcurrentJobs
  let maxConnectorQueries ←
    read env "GEOLOAD_MAX_CONNECTOR_QUERIES" Environment.uint64? defaults.maxConnectorQueries
  let jobStore ← parseJobStore (env.readOr "GEOLOAD_JOB_STORE" "postgres")
  return { pollIntervalSecs := pollIntervalSecs, maxConcurrentJobs, maxConnectorQueries, jobStore }

/-- The configuration that the environment describes. -/
def load (env : Environment) : Except Error Config := do
  let databaseUrl := env.readOr "DATABASE_URL" ({} : DatabaseConfig).url
  let connectors ← readConnectors env databaseUrl
  let database ← readDatabase env databaseUrl
  let importing ← readImporting env
  let statistics ← readStatistics env
  let storage ← readStorage env
  let scheduler ← readScheduler env
  validate { database := database, connectors, importing, statistics, storage, scheduler }

end Config

end BulkImport
