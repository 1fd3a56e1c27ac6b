import BulkImport.Config.Basic
import BulkImport.Index.Plan

/-!
# Import settings

What the configuration says about imports, once its names have been found to be identifiers.
-/

namespace BulkImport.Import

open BulkImport.Sql

/-- How imports are done. -/
structure Settings where
  schema : Identifier
  layout : Index.Layout
  /-- The segments that are indexed, in building order. -/
  segments : List Index.Segment
  useViewFacade : Bool
  statusSchema : Identifier
  statusTable : Identifier
  /-- Who is named as author when a job names nobody. -/
  author : String

/-- The settings that a configuration describes. -/
def Settings.ofConfig (c : ImportConfig) : Except IdentifierError Settings := do
  let schemaName ← Identifier.ofText c.schema
  let statusSchema ← Identifier.ofText c.indexStatusSchema
  let statusTable ← Identifier.ofText c.indexStatusTable
  return { schema := schemaName, layout := Index.Layout.ofLegacyFlag c.legacyLayout,
           segments := c.indexSegments.map Index.Segment.ofName,
           useViewFacade := c.useViewFacade, statusSchema, statusTable, author := c.author }

end BulkImport.Import
