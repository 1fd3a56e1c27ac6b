import BulkImport.Import.Session
import BulkImport.Index.Plan

/-!
# Rebuilding indices

The indices of a table are built segment by segment: all of one segment together, and none of the
next before every one of them has ended.  Building the same index on a partitioned table and on
its partitions at once would make the database give two of them one name.  A build that fails is
reported and stops nothing.
-/

namespace BulkImport.Import

open BulkImport.Sql BulkImport.Index

/-- An index that is missing after a rebuild. -/
structure MissingIndex where
  entry : String
  reason : String
deriving DecidableEq

/-- What came of a rebuild. -/
structure Report where
  /-- The entries of the indices that were built. -/
  built : List String := []
  missing : List MissingIndex := []
  /-- How many indices were to be built. -/
  attempted : Nat := 0
deriving DecidableEq

namespace Report

/-- Whether no index is missing. -/
def isComplete (r : Report) : Bool := r.missing.isEmpty

/-- What came of one rebuild and of another after it. -/
def append (r r' : Report) : Report :=
  { built := r.built ++ r'.built, missing := r.missing ++ r'.missing,
    attempted := r.attempted + r'.attempted }

/-- What came of single builds. -/
def ofOutcomes (outcomes : List (Except MissingIndex String)) : Report :=
  { built := outcomes.filterMap fun
      | .ok entry => some entry
      | .error _ => none
    missing := outcomes.filterMap fun
      | .ok _ => none
      | .error m => some m
    attempted := outcomes.length }

end Report

/-- An index to build: its entry, and the statement if its name can be had. -/
structure Build where
  entry : String
  statement : Except BuildError Statement

/-- The builds of these kinds on a table. -/
def buildsOn (schema table : Identifier) (kinds : List Kind) : List Build :=
  kinds.map fun k => { entry := k.entry table, statement := k.statement schema table }

/-- The statements of the builds that have one. -/
def buildStatements : List Build → List Statement
  | [] => []
  | ⟨_, .ok s⟩ :: bs => s :: buildStatements bs
  | ⟨_, .error _⟩ :: bs => buildStatements bs

/-- What came of each build, from the results of the statements. -/
def buildOutcomes : (bs : List Build) → Results (buildStatements bs) →
    List (Except MissingIndex String)
  | [], _ => []
  | ⟨entry, .ok _⟩ :: bs, (.ok _, results) => .ok entry :: buildOutcomes bs results
  | ⟨entry, .ok _⟩ :: bs, (.error e, results) =>
    .error ⟨entry, e.message⟩ :: buildOutcomes bs results
  | ⟨entry, .error e⟩ :: bs, results => .error ⟨entry, e.message⟩ :: buildOutcomes bs results

/-- What is reported of a segment whose table cannot be named. -/
def unnamedSegment (base : Identifier) (segment : Segment) (kinds : List Kind)
    (e : IdentifierError) : Report :=
  Report.ofOutcomes <| kinds.map fun k =>
    .error ⟨k.entryNamed (base.text ++ "_" ++ segment.name), e.message⟩

/-- Build the indices of one segment together. -/
def rebuildSegment (connector : String) (schema base : Identifier) (layout : Layout)
    (segment : Segment) : Action Report :=
  match segment.table base with
  | .error e => pure (unnamedSegment base segment (segment.plan layout) e)
  | .ok table => do
    let builds := buildsOn schema table (segment.plan layout)
    let results ← executeAll connector (buildStatements builds)
    return Report.ofOutcomes (buildOutcomes builds results)

/-- Build the indices of every segment, one segment after the other. -/
def rebuild (connector : String) (schema base : Identifier) (layout : Layout) :
    List Segment → Action Report
  | [] => pure {}
  | segment :: segments => do
    let first ← rebuildSegment connector schema base layout segment
    let rest ← rebuild connector schema base layout segments
    return first.append rest

end BulkImport.Import
