import BulkImport.Sql.Identifier

/-!
# Statements

The text that is sent to a database, with the values of its positional parameters.
-/

namespace BulkImport.Sql

/-- A statement that is ready to be sent. -/
structure Statement where
  /-- The text, with `$1`, `$2`, … where parameters go. -/
  text : String
  /-- The values of the parameters, in order. -/
  params : List String := []
deriving DecidableEq

end BulkImport.Sql
