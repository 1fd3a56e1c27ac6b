import BulkImport.Import.Session
import BulkImport.Text.Search

/-!
# Scripted databases

A database that answers by a script, for rehearsing imports without a server.  Every call is
written to a log.  A call fails while the database is offline, or when a rule of the script says
so; otherwise the text of its statement decides the answer.
-/

namespace BulkImport.Rehearsal

open BulkImport.Sql

/-- How a statement is put to a database. -/
inductive Method where
  | execute
  | fetchInteger
  | fetchTexts
deriving DecidableEq

/-- A rule by which calls fail: those whose text holds `contains`, `times` of them if that is
given. -/
structure Rule where
  contains : String
  error : Database.Error
  times : Option Nat := none

/-- What a database answers. -/
structure Script where
  /-- The tables, each with the count that a probe is told. -/
  tables : List (String × Int64) := []
  indices : List String := []
  /-- What the version sequences have counted to. -/
  sequence : Int64 := 0
  /-- How many statements run. -/
  running : Nat := 0
  /-- The rows that a load gives, if it is told which. -/
  rows : Option (List String) := none
  offline : Bool := false
  /-- Whether calls that are started together are under way together, and are counted. -/
  parallel : Bool := false
  rules : List Rule := []

/-- A database that follows a script. -/
structure Database where
  script : Script
  /-- What was counted for the text of a statement. -/
  counters : List (String × Int64) := []
  /-- The most calls that were counted to be under way at a time. -/
  peak : Nat := 0

/-- A call as it is logged. -/
structure Call where
  connector : String
  method : Method
  statement : Statement

/-- The error of the first rule that holds for a text, and the rules after that. -/
def failure? (text : String) : List Rule → Option (BulkImport.Database.Error × List Rule)
  | [] => none
  | rule :: rules =>
    if rule.times ≠ some 0 ∧ Text.occursIn rule.contains text then
      some (rule.error, { rule with times := rule.times.map (· - 1) } :: rules)
    else (failure? text rules).map fun (e, rules') => (e, rule :: rules')

/-- The number that a query for a number gives. -/
def integerAnswer (db : Database) (s : Statement) : Int64 × Database :=
  if Text.occursIn "nextval" s.text then
    let next := (db.counters.lookup s.text).getD db.script.sequence + 1
    (next, { db with counters := (s.text, next) :: db.counters })
  else
    let count := (s.params[1]?.bind fun table => db.script.tables.lookup table).getD 0
    (count, db)

/-- The texts that a query for texts gives. -/
def textsAnswer (script : Script) (s : Statement) : List String :=
  if Text.occursIn "xyz_index_list_all_available" s.text then script.indices
  else if Text.occursIn "pg_stat_activity" s.text then List.replicate script.running "SELECT 1"
  else if Text.occursIn "table_import_from_s3" s.text then
    script.rows.getD ["100 rows imported"]
  else []

/-- A call to a database: it fails, or `answer` answers it. -/
def Database.call {α : Type} (db : Database) (s : Statement)
    (answer : Database → α × Database) : Except BulkImport.Database.Error α × Database :=
  if db.script.offline then (.error (.noConnection "pool timed out"), db)
  else
    match failure? s.text db.script.rules with
    | some (e, rules) => (.error e, { db with script := { db.script with rules := rules } })
    | none =>
      let (a, db) := answer db
      (.ok a, db)

/-- The database after so many calls were started together.  They are counted only where calls can
be under way together. -/
def Database.notePeak (db : Database) (calls : Nat) : Database :=
  if db.script.parallel then { db with peak := max db.peak calls } else db

end BulkImport.Rehearsal
