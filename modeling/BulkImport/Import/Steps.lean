import BulkImport.Import.Rebuild
import BulkImport.Import.Settings
import BulkImport.Table.Facade
import BulkImport.Table.Load
import BulkImport.Table.Statements

/-!
# Steps on a target table

The single things that an import does to the table it fills: look whether it is there, claim it,
put up and take down the staging facade, load a file.  Each may be done outside of an import too.
-/

namespace BulkImport.Import

open BulkImport.Job BulkImport.Sql BulkImport.Table

/-- The statements that run on a connector, as many as there are.  `sessionName` is what the
sessions of a connector call themselves. -/
def runningQueries (sessionName : String → String) (connector : String) :
    Action (Except Database.Error Nat) := do
  match ← connect connector with
  | .error e => return .error e
  | .ok _ =>
    let rows ← fetchTexts connector (runningQueriesStatement (sessionName connector))
    return rows.map List.length

/-- Whether a table is there. -/
def tableExists (connector : String) (schema table : Identifier) :
    Action (Except Database.Error Bool) := do
  let count ← fetchInteger connector (existsStatement schema table)
  return count.map fun n => decide (0 < n)

/-- The statement that claims a table, or the failure of an import that cannot have it. -/
def claimStatement (schema table : Identifier) : Except Failure Statement :=
  (Table.claimStatement schema table).mapError (Failure.ofBuild .preparation)

/-- Take the next version of a table, which must be the first one there is.  The version is used up
in any case. -/
def claim (connector : String) (schema table : Identifier) : Attempt Int64 := do
  let s ← ExceptT.mk (pure (claimStatement schema table))
  let version ← Attempt.database .preparation (fetchInteger connector s)
  if version = freshVersion then return version else throw (.sequenceNotZero version)

/-- Carry out a statement during a stage, once it is built. -/
def executeBuilt (stage : Stage) (connector : String) (r : Except BuildError Statement) :
    Attempt Unit := do
  let s ← Attempt.build stage r
  Attempt.database stage (execute connector s)

/-- Put the trigger on a table. -/
def createTrigger (connector : String) (schema table : Identifier) (stamp : RowStamp) :
    Attempt Unit :=
  executeBuilt .preparation connector (writeTriggerStatement schema table stamp)

/-- Put the view in front of a table; gives its name. -/
def createView (connector : String) (schema table : Identifier) : Attempt Identifier := do
  executeBuilt .preparation connector (createViewStatement schema table)
  Attempt.build .preparation (Identifier.build (viewName table))

/-- Take the trigger off a table. -/
def dropTrigger (connector : String) (schema table : Identifier) : Attempt Unit :=
  executeBuilt .finalization connector (dropTriggerStatement schema table)

/-- Take the view of a table away. -/
def dropView (connector : String) (schema table : Identifier) : Attempt Unit :=
  executeBuilt .finalization connector (dropViewStatement schema table)

/-- Load a file into a table or a view; gives the loader's own words. -/
def bulkLoad (connector : String) (schema relation : Identifier) (format : Option CsvFormat)
    (target : LoadTarget) (request : LoadRequest) : Action (Except Database.Error String) :=
  match loadStatement schema relation format target request with
  | .error e => pure (.error (.unexpectedRow e.message))
  | .ok s => fetchText connector s

end BulkImport.Import
