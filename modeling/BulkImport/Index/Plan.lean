import BulkImport.Index.Kind

/-!
# Index plans

Which indices are built on which parts of a partitioned table.  The layout of the table decides
the kinds; the visualisation index is built on the partitioned parent only, because on a partition
its name collides with the one that the database makes up for the inherited index.
-/

namespace BulkImport.Index

open BulkImport.Sql

/-- The layout of a table. -/
inductive Layout where
  /-- The columns of the first table version, with seven indices. -/
  | legacy
  /-- The versioned table, with five more indices on its own columns. -/
  | extended
deriving DecidableEq

namespace Layout

/-- The layout that a flag selects. -/
def ofLegacyFlag (flag : Bool) : Layout := if flag then legacy else extended

/-- Whether the layout is that of the first table version. -/
def isLegacy : Layout → Bool
  | legacy => true
  | extended => false

/-- The indices of the layout in building order. -/
def kinds : Layout → List Kind
  | legacy => [.id, .geo, .createdAt, .updatedAt, .serial, .tags, .viz]
  | extended => [.id, .geo, .createdAt, .updatedAt, .serial, .tags, .viz, .idNew, .version,
      .idVersion, .operation, .author]

end Layout

/-- A part of a partitioned table. -/
inductive Segment where
  /-- The partitioned parent itself. -/
  | root
  /-- The partition whose name ends in an underscore and this text. -/
  | partition (name : String)
deriving DecidableEq

namespace Segment

/-- The segment of a name: `root` in any case is the parent, every other name a partition. -/
def ofName (name : String) : Segment :=
  if Text.fold name = "root" then root else partition name

/-- The name of a segment. -/
def name : Segment → String
  | root => "root"
  | partition n => n

/-- Whether the segment is the partitioned parent. -/
def isRoot : Segment → Bool
  | root => true
  | partition _ => false

/-- The segments of a table for which no others are configured, in building order. -/
def defaults : List Segment := [partition "head", partition "p0", root]

/-- The table that holds a segment. -/
def table (s : Segment) (base : Identifier) : Except IdentifierError Identifier :=
  match s with
  | root => .ok base
  | partition n => base.withSuffix ("_" ++ n)

/-- The indices that are built on a segment, in building order. -/
def plan (layout : Layout) (s : Segment) : List Kind :=
  layout.kinds.filter fun k => s.isRoot || k != .viz

end Segment

/-- The number of indices that are built on segments. -/
def planned (layout : Layout) (segments : List Segment) : Nat :=
  (segments.flatMap fun s => s.plan layout).length

end BulkImport.Index
