import BulkImport.Job.Record

/-!
# Loading a file

The database pulls the rows of an uploaded file out of object storage by itself; a statement tells
it where the file lies and which columns it fills.  A file of whole documents carries the geometry
inside the document and fills one column, every other file fills two.
-/

namespace BulkImport.Table

open BulkImport.Sql

/-- How the uploaded files are written. -/
def copyOptions : String := "DELIMITER ',' CSV ENCODING 'UTF8' QUOTE '\"' ESCAPE ''''"

/-- A file to load. -/
structure LoadRequest where
  bucket : String
  key : String
  region : String
  size : UInt64
deriving DecidableEq

/-- The file of an upload. -/
def LoadRequest.ofUpload (u : Upload) : LoadRequest :=
  { bucket := u.bucket, key := u.key, region := u.region, size := u.filesize.getD 0 }

/-- Where rows go. -/
inductive LoadTarget where
  /-- Into the table, whose trigger fills in the other columns. -/
  | table
  /-- Into the view of the staging facade. -/
  | view
deriving DecidableEq

/-- The columns that a file fills. -/
def columns (format : Option CsvFormat) (target : LoadTarget) : String :=
  match target, format with
  | .table, some .geojson => "jsondata"
  | .table, _ => "jsondata,geo"
  | .view, some .geojson => "data"
  | .view, _ => "data,geo"

/-- Loads a file into a table or a view. -/
def loadStatement (schema relation : Identifier) (format : Option CsvFormat) (target : LoadTarget)
    (request : LoadRequest) : Except TemplateError Statement :=
  let template : Template :=
    { text := "SELECT aws_s3.table_import_from_s3(" ++ variableHole "relation" ++ ", " ++
        variableHole "columns" ++ ", " ++ variableHole "options" ++
        ", aws_commons.create_s3_uri(" ++ variableHole "bucket" ++ ", " ++ variableHole "key" ++
        ", " ++ variableHole "region" ++ ")), " ++ variableHole "hint" ++ " as iml_import_hint"
      bindings := [("relation", .literal (schema.quoted ++ "." ++ relation.quoted)),
        ("columns", .literal (columns format target)), ("options", .literal copyOptions),
        ("bucket", .literal request.bucket), ("key", .literal request.key),
        ("region", .literal request.region),
        ("hint", .literal (request.key ++ ":" ++ toString request.size.toNat))] }
  template.substitute

end BulkImport.Table
