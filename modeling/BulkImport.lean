import BulkImport.Config.Codec
import BulkImport.Config.Load
import BulkImport.Connector.Registry
import BulkImport.Job.Codec
import BulkImport.Json.Document
import BulkImport.Json.Printer
import BulkImport.Logging.Directive
import BulkImport.Proofs.Config.Connectors
import BulkImport.Proofs.Config.Reading
import BulkImport.Proofs.Import.Agenda
import BulkImport.Proofs.Import.Assessment
import BulkImport.Proofs.Import.Blame
import BulkImport.Proofs.Import.Claim
import BulkImport.Proofs.Import.Closing
import BulkImport.Proofs.Import.Conclusion
import BulkImport.Proofs.Import.Coverage
import BulkImport.Proofs.Import.Disconnection
import BulkImport.Proofs.Import.Groundwork
import BulkImport.Proofs.Import.Rebuilding
import BulkImport.Proofs.Import.Retry
import BulkImport.Proofs.Import.Segments
import BulkImport.Proofs.Import.Staging
import BulkImport.Proofs.Import.Success
import BulkImport.Proofs.Import.Trail
import BulkImport.Proofs.Import.Turns
import BulkImport.Proofs.Index.Naming
import BulkImport.Proofs.Job.RoundTrip
import BulkImport.Proofs.Scheduler.Dispatching
import BulkImport.Proofs.Scheduler.Draining
import BulkImport.Proofs.Scheduler.Sampling
import BulkImport.Proofs.Scheduler.Selection
import BulkImport.Proofs.Sql.Parameters
import BulkImport.Proofs.Sql.Substitution
import BulkImport.Proofs.Statistics.Asking
import BulkImport.Proofs.Store.Contents
import BulkImport.Proofs.Store.Enumeration
import BulkImport.Proofs.Table.Wording
import BulkImport.Rehearsal.Trial
import BulkImport.Storage.Lookup
