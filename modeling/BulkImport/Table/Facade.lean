import BulkImport.Index.Plan

/-!
# The staging facade

What is put in front of a table while it is loaded.  The loader writes raw columns only; a trigger
on the table fills in version, author and uuid.  Where loads go through a view of the table, a
trigger on the view turns its two columns into a row.  Both are taken away after the load, by
statements that may be repeated.
-/

namespace BulkImport.Table

open BulkImport.Sql

/-- The name of the trigger, in the form that an unquoted name takes. -/
def triggerName : Except IdentifierError Identifier := Identifier.ofText "inserttrigger"

/-- The resource tag that the triggers are given. -/
def resourceTag : Value := .literal "TBD"

/-- The name of the view of a table. -/
def viewName (table : Identifier) : Except IdentifierError Identifier :=
  table.withSuffix "_view"

/-- What the trigger on a table writes into every row. -/
structure RowStamp where
  version : Int64
  enableUuid : Bool
  layout : Index.Layout
  author : String

/-- Puts the trigger on a table.  The trigger could take the table's name from the row, which is
never wanted here. -/
def writeTriggerStatement (schema table : Identifier) (stamp : RowStamp) :
    Except BuildError Statement := do
  let trigger ← Identifier.build triggerName
  let template : Template :=
    { text := "CREATE OR REPLACE TRIGGER " ++ variableHole "trigger" ++ " BEFORE INSERT ON " ++
        variableHole "schema" ++ "." ++ variableHole "table" ++
        " FOR EACH ROW EXECUTE PROCEDURE " ++ variableHole "schema" ++ ".xyz_import_trigger(" ++
        variableHole "hrn" ++ ", " ++ variableHole "add_table_name" ++ ", " ++
        variableHole "enable_uuid" ++ ", " ++ variableHole "space_version" ++ ", " ++
        variableHole "author" ++ ", " ++ variableHole "old_layout" ++ ")"
      bindings := [("trigger", .identifier trigger), ("schema", .identifier schema),
        ("table", .identifier table), ("hrn", resourceTag), ("add_table_name", .boolean false),
        ("enable_uuid", .boolean stamp.enableUuid), ("space_version", .integer stamp.version),
        ("author", .literal stamp.author), ("old_layout", .boolean stamp.layout.isLegacy)] }
  template.build

/-- The part that puts the view in front of the table. -/
def createViewTemplate : Template :=
  { text := "CREATE OR REPLACE VIEW " ++ variableHole "schema" ++ "." ++ variableHole "view" ++
      " AS SELECT t.jsondata AS data, t.geo AS geo FROM " ++ variableHole "schema" ++ "." ++
      variableHole "table" ++ " t;" }

/-- The part that puts the trigger on the view. -/
def viewTriggerTemplate : Template :=
  { text := "CREATE OR REPLACE TRIGGER " ++ variableHole "trigger" ++ " INSTEAD OF INSERT ON " ++
      variableHole "schema" ++ "." ++ variableHole "view" ++
      " FOR EACH ROW EXECUTE PROCEDURE xyz_viewTrigger_wkbv2(" ++ variableHole "hrn" ++ ", " ++
      variableHole "schema_name" ++ ", " ++ variableHole "table_name" ++ ");" }

/-- Puts the view in front of a table, with the trigger on it. -/
def createViewStatement (schema table : Identifier) : Except BuildError Statement := do
  let trigger ← Identifier.build triggerName
  let view ← Identifier.build (viewName table)
  let template : Template :=
    { text := fragmentHole "create_view" ++ " " ++ fragmentHole "create_trigger"
      fragments := [("create_view", createViewTemplate), ("create_trigger", viewTriggerTemplate)]
      bindings := [("trigger", .identifier trigger), ("schema", .identifier schema),
        ("table", .identifier table), ("view", .identifier view), ("hrn", resourceTag),
        ("schema_name", .literal schema.text), ("table_name", .literal table.text)] }
  template.build

/-- Takes the trigger off a table, if it is there. -/
def dropTriggerStatement (schema table : Identifier) : Except BuildError Statement := do
  let trigger ← Identifier.build triggerName
  let template : Template :=
    { text := "DROP TRIGGER IF EXISTS " ++ variableHole "trigger" ++ " ON " ++
        variableHole "schema" ++ "." ++ variableHole "table"
      bindings := [("trigger", .identifier trigger), ("schema", .identifier schema),
        ("table", .identifier table)] }
  template.build

/-- Takes the view of a table away, if it is there. -/
def dropViewStatement (schema table : Identifier) : Except BuildError Statement := do
  let view ← Identifier.build (viewName table)
  let template : Template :=
    { text := "DROP VIEW IF EXISTS " ++ variableHole "schema" ++ "." ++ variableHole "view"
      bindings := [("schema", .identifier schema), ("view", .identifier view)] }
  template.build

end BulkImport.Table
