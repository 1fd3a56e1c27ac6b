import BulkImport.Config.Basic
import BulkImport.Json.Basic

/-!
# The configuration in JSON

Each section is an object of its fields, or a list of all of them in order.  Reading ignores
fields it does not know; a field without a value of its own must be there.
-/

namespace BulkImport

open Json (required? optional? text? bool? uint32? uint64?)

/-- Pool settings in JSON. -/
def DatabaseConfig.toJson (c : DatabaseConfig) : Json :=
  .object [("url", .text c.url), ("max_connections", .integer c.maxConnections.toNat),
    ("min_connections", .integer c.minConnections.toNat),
    ("connect_timeout_secs", .integer c.connectTimeoutSecs.toNat),
    ("idle_timeout_secs", .integer c.idleTimeoutSecs.toNat),
    ("application_name", .text c.applicationName)]

/-- Pool settings from JSON. -/
def DatabaseConfig.ofJson? (j : Json) : Option DatabaseConfig := do
  let ms ← j.record? ["url", "max_connections", "min_connections", "connect_timeout_secs",
    "idle_timeout_secs", "application_name"] 6
  let url ← required? ms "url" text?
  let maxConnections ← required? ms "max_connections" uint32?
  let minConnections ← required? ms "min_connections" uint32?
  let connectTimeoutSecs ← required? ms "connect_timeout_secs" uint64?
  let idleTimeoutSecs ← required? ms "idle_timeout_secs" uint64?
  let applicationName ← required? ms "application_name" text?
  return { url := url, maxConnections, minConnections, connectTimeoutSecs, idleTimeoutSecs,
           applicationName }

/-- A connector in JSON. -/
def ConnectorConfig.toJson (c : ConnectorConfig) : Json :=
  .object [("id", .text c.id), ("url", .text c.url)]

/-- A connector from JSON. -/
def ConnectorConfig.ofJson? (j : Json) : Option ConnectorConfig := do
  let ms ← j.record? ["id", "url"] 2
  let id ← required? ms "id" text?
  let url ← required? ms "url" text?
  return ⟨id, url⟩

/-- Import settings in JSON. -/
def ImportConfig.toJson (c : ImportConfig) : Json :=
  .object [("schema", .text c.schema), ("legacy_layout", .bool c.legacyLayout),
    ("index_segments", .list (c.indexSegments.map .text)),
    ("index_status_schema", .text c.indexStatusSchema),
    ("index_status_table", .text c.indexStatusTable), ("use_view_facade", .bool c.useViewFacade),
    ("author", .text c.author)]

/-- Import settings from JSON. -/
def ImportConfig.ofJson? (j : Json) : Option ImportConfig := do
  let ms ← j.record? ["schema", "legacy_layout", "index_segments", "index_status_schema",
    "index_status_table", "use_view_facade", "author"] 7
  let schemaName ← required? ms "schema" text?
  let legacyLayout ← required? ms "legacy_layout" bool?
  let indexSegments ← required? ms "index_segments" (Json.listOf? text?)
  let indexStatusSchema ← required? ms "index_status_schema" text?
  let indexStatusTable ← required? ms "index_status_table" text?
  let useViewFacade ← required? ms "use_view_facade" bool?
  let author ← required? ms "author" text?
  return { schema := schemaName, legacyLayout, indexSegments, indexStatusSchema,
           indexStatusTable, useViewFacade, author }

/-- The settings of the statistics service in JSON. -/
def StatisticsConfig.toJson (c : StatisticsConfig) : Json :=
  .object [("endpoint", .text c.endpoint), ("timeout_secs", .integer c.timeoutSecs.toNat)]

/-- The settings of the statistics service from JSON. -/
def StatisticsConfig.ofJson? (j : Json) : Option StatisticsConfig := do
  let ms ← j.record? ["endpoint", "timeout_secs"] 2
  let endpoint ← required? ms "endpoint" text?
  let timeoutSecs ← required? ms "timeout_secs" uint64?
  return ⟨endpoint, timeoutSecs⟩

/-- The settings of object storage in JSON. -/
def StorageConfig.toJson (c : StorageConfig) : Json :=
  .object [("endpoint", Json.ofNullable .text c.endpoint), ("region", .text c.region),
    ("access_key", Json.ofNullable .text c.accessKey),
    ("secret_key", Json.ofNullable .text c.secretKey), ("path_style", .bool c.pathStyle)]

/-- The settings of object storage from JSON. -/
def StorageConfig.ofJson? (j : Json) : Option StorageConfig := do
  let ms ← j.record? ["endpoint", "region", "access_key", "secret_key", "path_style"] 5
  let endpoint ← optional? ms "endpoint" text?
  let region ← required? ms "region" text?
  let accessKey ← optional? ms "access_key" text?
  let secretKey ← optional? ms "secret_key" text?
  let pathStyle ← required? ms "path_style" bool?
  return { endpoint := endpoint, region, accessKey, secretKey, pathStyle }

/-- The scheduler settings in JSON. -/
def SchedulerConfig.toJson (c : SchedulerConfig) : Json :=
  .object [("poll_interval_secs", .integer c.pollIntervalSecs.toNat),
    ("max_concurrent_jobs", .integer c.maxConcurrentJobs.toNat),
    ("max_connector_queries", .integer c.maxConnectorQueries.toNat),
    ("job_store", Json.ofWord c.jobStore)]

/-- The scheduler settings from JSON. -/
def SchedulerConfig.ofJson? (j : Json) : Option SchedulerConfig := do
  let ms ← j.record? ["poll_interval_secs", "max_concurrent_jobs", "max_connector_queries",
    "job_store"] 4
  let pollIntervalSecs ← required? ms "poll_interval_secs" uint64?
  let maxConcurrentJobs ← required? ms "max_concurrent_jobs" uint64?
  let maxConnectorQueries ← required? ms "max_connector_queries" uint64?
  let jobStore ← required? ms "job_store" (Json.word? .nullOnly)
  return { pollIntervalSecs := pollIntervalSecs, maxConcurrentJobs, maxConnectorQueries, jobStore }

/-- A configuration in JSON. -/
def Config.toJson (c : Config) : Json :=
  .object [("database", c.database.toJson), ("connectors", .list (c.connectors.map (·.toJson))),
    ("import", c.importing.toJson), ("statistics", c.statistics.toJson),
    ("storage", c.storage.toJson), ("scheduler", c.scheduler.toJson)]

/-- A configuration from JSON. -/
def Config.ofJson? (j : Json) : Option Config := do
  let ms ← j.record? ["database", "connectors", "import", "statistics", "storage", "scheduler"] 6
  let database ← required? ms "database" DatabaseConfig.ofJson?
  let connectors ← required? ms "connectors" (Json.listOf? ConnectorConfig.ofJson?)
  let importing ← required? ms "import" ImportConfig.ofJson?
  let statistics ← required? ms "statistics" StatisticsConfig.ofJson?
  let storage ← required? ms "storage" StorageConfig.ofJson?
  let scheduler ← required? ms "scheduler" SchedulerConfig.ofJson?
  return { database := database, connectors, importing, statistics, storage, scheduler }

end BulkImport
