import BulkImport.Sql.Template
import BulkImport.Text.Vocabulary

/-!
# Index kinds

The indices that a table carries, with the statement that builds each.  An index is named after
its table and its key in lower case, the form that an unquoted name takes in the database.
-/

namespace BulkImport.Index

open BulkImport.Sql

/-- An index of a table. -/
inductive Kind where
  | id
  | geo
  | createdAt
  | updatedAt
  | serial
  | tags
  | viz
  | idNew
  | version
  | idVersion
  | operation
  | author
deriving DecidableEq

namespace Kind

/-- The key of a kind in index names and in the entries of a job's index list. -/
def key : Kind → String
  | id => "id"
  | geo => "geo"
  | createdAt => "createdAt"
  | updatedAt => "updatedAt"
  | serial => "serial"
  | tags => "tags"
  | viz => "viz"
  | idNew => "idnew"
  | version => "version"
  | idVersion => "idversion"
  | operation => "operation"
  | author => "author"

instance : Vocabulary Kind where
  all := [id, geo, createdAt, updatedAt, serial, tags, viz, idNew, version, idVersion, operation,
    author]
  word := key

/-- What is indexed, and how. -/
def expression : Kind → String
  | id => "((jsondata->>'id'))"
  | geo => "USING gist ((geo))"
  | createdAt =>
    "USING btree ((jsondata->'properties'->'@ns:com:here:xyz'->'createdAt'), (jsondata->>'id'))"
  | updatedAt =>
    "USING btree ((jsondata->'properties'->'@ns:com:here:xyz'->'updatedAt'), (jsondata->>'id'))"
  | serial => "USING btree ((i))"
  | tags => "USING gin ((jsondata->'properties'->'@ns:com:here:xyz'->'tags') jsonb_ops)"
  | viz => "USING btree (left(md5(''||i),5))"
  | idNew => "USING btree (id)"
  | version => "USING btree (version)"
  | idVersion => "USING btree (id,version)"
  | operation => "USING btree (operation)"
  | author => "USING btree (author)"

/-- The text of the template that builds an index of the kind. -/
def definition (k : Kind) : String :=
  "CREATE INDEX IF NOT EXISTS " ++ variableHole "idx_name" ++ " ON " ++ variableHole "schema" ++
    "." ++ variableHole "table" ++ " " ++ k.expression

/-- The name of the index of a kind on a table. -/
def indexName (k : Kind) (table : Identifier) : Except IdentifierError Identifier :=
  Identifier.ofText (Text.fold ("idx_" ++ table.text ++ "_" ++ k.key))

/-- The statement that builds the index of a kind on a table. -/
def statement (k : Kind) (schema table : Identifier) : Except BuildError Statement := do
  let name ← Identifier.build (k.indexName table)
  let template : Template :=
    { text := k.definition
      bindings := [("idx_name", .identifier name), ("schema", .identifier schema),
        ("table", .identifier table)] }
  template.build

/-- The entry of a kind and the name of a table in a job's index list. -/
def entryNamed (k : Kind) (table : String) : String := k.key ++ "@" ++ table

/-- The entry of the index of a kind on a table in a job's index list. -/
def entry (k : Kind) (table : Identifier) : String := k.entryNamed table.text

end Kind

end BulkImport.Index
