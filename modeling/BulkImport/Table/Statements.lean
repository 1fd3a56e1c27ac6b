import BulkImport.Sql.Template

/-!
# Statements on a target table

What an import asks of, and does to, the table it fills, apart from the staging facade, the load
and the index builds: probing, claiming by its version sequence, dropping its indices and marking
it for maintenance.
-/

namespace BulkImport.Table

open BulkImport.Sql

/-- Counts the tables of a name in a schema. -/
def existsStatement (schema table : Identifier) : Statement :=
  { text :=
      "SELECT count(*) FROM pg_catalog.pg_tables WHERE schemaname = $1 AND tablename = $2"
    params := [schema.text, table.text] }

/-- Lists the statements that run in the sessions of an application. -/
def runningQueriesStatement (application : String) : Statement :=
  { text := "SELECT query FROM pg_catalog.pg_stat_activity " ++
      "WHERE application_name = $1 AND state = 'active' " ++
      "AND backend_type = 'client backend' AND pid <> pg_backend_pid()"
    params := [application] }

/-- The version that a table hands out when it was never written to. -/
def freshVersion : Int64 := 1

/-- The sequence that counts the writes to a table. -/
def versionSequence (table : Identifier) : Except IdentifierError Identifier :=
  table.withSuffix "_version_seq"

/-- Takes the next version of a table.  The sequence goes in as a text, which the database reads
as a qualified name. -/
def claimStatement (schema table : Identifier) : Except BuildError Statement := do
  let counter ← Identifier.build (versionSequence table)
  let template : Template :=
    { text := "SELECT nextval(" ++ variableHole "sequence" ++ ")"
      bindings := [("sequence", .literal (schema.quoted ++ "." ++ counter.quoted))] }
  template.build

/-- Lists the indices of a table. -/
def listIndicesStatement (schema table : Identifier) : Statement :=
  { text := "select * from xyz_index_list_all_available($1,$2)"
    params := [schema.text, table.text] }

/-- The variable of the index at a place of a batch. -/
def indexVariable (place : Nat) : String := "idx_" ++ toString place

/-- The template of a batch with one more index to drop, which comes at the given place. -/
def dropIndexToo (t : Template) (place : Nat) (index : Identifier) : Template :=
  let drop := "DROP INDEX IF EXISTS " ++ variableHole "schema" ++ "." ++
    variableHole (indexVariable place) ++ " CASCADE;"
  (t.append drop).setVariable (indexVariable place) (.identifier index)

/-- The template of a batch with all these indices to drop, the first at the given place. -/
def dropIndicesFrom (t : Template) (place : Nat) : List String → Except BuildError Template
  | [] => .ok t
  | name :: names => do
    let index ← Identifier.build (Identifier.ofText name)
    dropIndicesFrom (dropIndexToo t place index) (place + 1) names

/-- Drops all these indices in one batch. -/
def dropIndicesStatement (schema : Identifier) (names : List String) :
    Except BuildError Statement := do
  let start : Template := { text := "", bindings := [("schema", .identifier schema)] }
  let template ← dropIndicesFrom start 0 names
  template.build

/-- Marks the indices of a table as not complete, so that maintenance looks after them. -/
def maintenanceStatement (statusSchema statusTable table schema : Identifier) :
    Except BuildError Statement :=
  let template : Template :=
    { text := "UPDATE " ++ variableHole "status_schema" ++ "." ++ variableHole "status_table" ++
        " SET idx_creation_finished = false WHERE spaceid = $1 AND schem = $2"
      bindings := [("status_schema", .identifier statusSchema),
        ("status_table", .identifier statusTable)]
      params := [table.text, schema.text] }
  template.build

end BulkImport.Table
