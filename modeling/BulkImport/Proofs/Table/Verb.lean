import BulkImport.Index.Kind
import BulkImport.Proofs.Sql.Expansion
import BulkImport.Table.Facade
import BulkImport.Table.Load
import BulkImport.Table.Statements

/-!
# What a statement does, by its first words

Every statement that an import sends begins with fixed words before anything of the job or of the
settings comes in, and no two kinds of them begin with the same words (`eq_of_opening`).  So what a
statement does can be read off its text alone, as somebody who watches the database would
(`Verb.of?`).  Main statements: the verb of everything that the builders of statements make
(`verb_load`, `verb_dropTrigger` and so on).

Some of the builders are given their whole text here: a load, the trigger and its removal and the
mark for maintenance can always be built, and the view, its removal, the claim and an index where
what they make up has a name.
-/

namespace BulkImport.Table

open BulkImport.Sql

/-- What a statement of an import does. -/
inductive Verb where
  | probe
  | claim
  | listIndices
  | dropIndices
  | createTrigger
  | createView
  | load
  | createIndex
  | dropTrigger
  | dropView
  | markMaintenance
deriving DecidableEq

namespace Verb

/-- The words that a statement begins with. -/
def opening : Verb → String
  | probe => "SELECT count("
  | claim => "SELECT nextval("
  | listIndices => "select * from "
  | dropIndices => "DROP INDEX IF EXISTS "
  | createTrigger => "CREATE OR REPLACE TRIGGER "
  | createView => "CREATE OR REPLACE VIEW "
  | load => "SELECT aws_s3.table_import_from_s3("
  | createIndex => "CREATE INDEX IF NOT EXISTS "
  | dropTrigger => "DROP TRIGGER IF EXISTS "
  | dropView => "DROP VIEW IF EXISTS "
  | markMaintenance => "UPDATE "

/-- Every verb. -/
def all : List Verb :=
  [probe, claim, listIndices, dropIndices, createTrigger, createView, load, createIndex,
    dropTrigger, dropView, markMaintenance]

theorem mem_all (v : Verb) : v ∈ all := by cases v <;> decide

/-- No words begin with those of another verb. -/
theorem eq_of_openings {v w : Verb} (h : v.opening.toList <+: w.opening.toList) :
    v = w := by
  -- the verbs are few, so that every pair of them can be looked at
  have hall : ∀ v ∈ all, ∀ w ∈ all, v.opening.toList <+: w.opening.toList → v = w := by decide
  exact hall v (mem_all v) w (mem_all w) h

/-- A text does not begin with the words of two verbs. -/
theorem eq_of_opening {v w : Verb} {cs : List Char} (hv : v.opening.toList <+: cs)
    (hw : w.opening.toList <+: cs) : v = w := by
  rcases List.prefix_or_prefix_of_prefix hv hw with h | h
  · exact eq_of_openings h
  · exact (eq_of_openings h).symm

/-- The verb of a statement, where its text begins with the words of one. -/
def of? (s : Statement) : Option Verb :=
  all.find? fun v => v.opening.toList.isPrefixOf s.text.toList

theorem of?_eq_some {v : Verb} {s : Statement} (h : v.opening.toList <+: s.text.toList) :
    of? s = some v := by
  cases hfound : of? s with
  | none =>
    have hv := List.find?_eq_none.1 hfound v (mem_all v)
    exact absurd (List.isPrefixOf_iff_prefix.2 h) hv
  | some w =>
    have hw : w.opening.toList <+: s.text.toList :=
      List.isPrefixOf_iff_prefix.1 (by simpa using List.find?_some hfound)
    rw [eq_of_opening hw h]

/-- A template whose text begins with the words of a verb makes statements of that verb. -/
theorem of?_build {v : Verb} {t : Template} {s : Statement} (hplain : '$' ∉ v.opening.toList)
    (ht : v.opening.toList <+: t.text.toList) (h : t.build = .ok s) : of? s = some v :=
  of?_eq_some (Template.opening_of_build hplain ht h)

end Verb

/-! ### Whole texts -/

/-- The trigger of a staging facade. -/
def insertTrigger : Identifier := ⟨"inserttrigger", by decide, by decide⟩

theorem triggerName_eq : triggerName = .ok insertTrigger := insertTrigger.ofText_text

theorem dropTriggerStatement_eq (schema table : Identifier) :
    dropTriggerStatement schema table =
      .ok ⟨"DROP TRIGGER IF EXISTS " ++ insertTrigger.quoted ++ " ON " ++ schema.quoted ++ "." ++
        table.quoted, []⟩ := by
  rw [dropTriggerStatement, triggerName_eq, Identifier.build_ok, ok_bind]
  refine Template.build_of_becomes ?_
  exact .hole (.text (.hole (.text (.hole (.plainText (by decide)) (by decide) rfl) (by decide))
    (by decide) rfl) (by decide)) (by decide) rfl

theorem claimStatement_eq (schema : Identifier) {table counter : Identifier}
    (hcounter : versionSequence table = .ok counter) :
    claimStatement schema table =
      .ok ⟨"SELECT nextval(" ++ (Value.literal (schema.quoted ++ "." ++ counter.quoted)).render ++
        ")", []⟩ := by
  rw [claimStatement, hcounter, Identifier.build_ok, ok_bind]
  refine Template.build_of_becomes ?_
  exact .text (.hole (.plainText (by decide)) (by decide) rfl) (by decide)

theorem createViewStatement_eq (schema : Identifier) {table view : Identifier}
    (hview : viewName table = .ok view) :
    createViewStatement schema table =
      .ok ⟨"CREATE OR REPLACE VIEW " ++ schema.quoted ++ "." ++ view.quoted ++
        " AS SELECT t.jsondata AS data, t.geo AS geo FROM " ++ schema.quoted ++ "." ++
        table.quoted ++ " t;" ++ " " ++
        ("CREATE OR REPLACE TRIGGER " ++ insertTrigger.quoted ++ " INSTEAD OF INSERT ON " ++
          schema.quoted ++ "." ++ view.quoted ++
          " FOR EACH ROW EXECUTE PROCEDURE xyz_viewTrigger_wkbv2(" ++ resourceTag.render ++ ", " ++
          (Value.literal schema.text).render ++ ", " ++ (Value.literal table.text).render ++ ");"),
        []⟩ := by
  rw [createViewStatement, triggerName_eq, Identifier.build_ok, ok_bind, hview,
    Identifier.build_ok, ok_bind]
  refine Template.build_of_becomes ?_
  -- each of the two parts is a fragment, which finds its variables in the whole
  refine .append (.append (.fragmentHole (by decide) (Template.resolver_fragment rfl ?_))
    (.plainText (by decide))) (.fragmentHole (by decide) (Template.resolver_fragment rfl ?_))
  · unfold createViewTemplate
    refine .text (.hole (.text (.hole (.text (.hole (.text (.hole (.plainText ?_) ?_ ?_) ?_) ?_ ?_)
      ?_) ?_ ?_) ?_) ?_ ?_) ?_
    all_goals first
      | decide
      | rfl
  · unfold viewTriggerTemplate
    refine .text (.hole (.text (.hole (.text (.hole (.text (.hole (.text (.hole (.text (.hole
      (.plainText ?_) ?_ ?_) ?_) ?_ ?_) ?_) ?_ ?_) ?_) ?_ ?_) ?_) ?_ ?_) ?_) ?_ ?_) ?_
    all_goals first
      | decide
      | rfl

theorem dropViewStatement_eq (schema : Identifier) {table view : Identifier}
    (hview : viewName table = .ok view) :
    dropViewStatement schema table =
      .ok ⟨"DROP VIEW IF EXISTS " ++ schema.quoted ++ "." ++ view.quoted, []⟩ := by
  rw [dropViewStatement, hview, Identifier.build_ok, ok_bind]
  refine Template.build_of_becomes ?_
  exact .hole (.text (.hole (.plainText (by decide)) (by decide) rfl) (by decide)) (by decide) rfl

/-- The text up to the file that is loaded. -/
def loadIntoText (schema relation : Identifier) (format : Option CsvFormat)
    (target : LoadTarget) : String :=
  "SELECT aws_s3.table_import_from_s3(" ++
    (Value.literal (schema.quoted ++ "." ++ relation.quoted)).render ++ ", " ++
    (Value.literal (columns format target)).render ++ ", " ++ (Value.literal copyOptions).render ++
    ", aws_commons.create_s3_uri("

theorem loadStatement_eq (schema relation : Identifier) (format : Option CsvFormat)
    (target : LoadTarget) (r : LoadRequest) :
    loadStatement schema relation format target r =
      .ok ⟨loadIntoText schema relation format target ++ (Value.literal r.bucket).render ++ ", " ++
        (Value.literal r.key).render ++ ", " ++ (Value.literal r.region).render ++ ")), " ++
        (Value.literal (r.key ++ ":" ++ toString r.size.toNat)).render ++ " as iml_import_hint",
        []⟩ := by
  refine Template.substitute_of_becomes ?_
  refine .text (.hole (.text (.hole (.text (.hole (.text (.hole (.text (.hole (.text (.hole (.text
    (.hole (.plainText ?_) ?_ ?_) ?_) ?_ ?_) ?_) ?_ ?_) ?_) ?_ ?_) ?_) ?_ ?_) ?_) ?_ ?_) ?_)
    ?_ ?_) ?_
  all_goals first
    | decide
    | rfl

theorem writeTriggerStatement_eq (schema table : Identifier) (stamp : RowStamp) :
    writeTriggerStatement schema table stamp =
      .ok ⟨"CREATE OR REPLACE TRIGGER " ++ insertTrigger.quoted ++ " BEFORE INSERT ON " ++
        schema.quoted ++ "." ++ table.quoted ++ " FOR EACH ROW EXECUTE PROCEDURE " ++
        schema.quoted ++ ".xyz_import_trigger(" ++ resourceTag.render ++ ", " ++
        (Value.boolean false).render ++ ", " ++ (Value.boolean stamp.enableUuid).render ++ ", " ++
        (Value.integer stamp.version).render ++ ", " ++ (Value.literal stamp.author).render ++
        ", " ++ (Value.boolean stamp.layout.isLegacy).render ++ ")", []⟩ := by
  rw [writeTriggerStatement, triggerName_eq, Identifier.build_ok, ok_bind]
  refine Template.build_of_becomes ?_
  refine .text (.hole (.text (.hole (.text (.hole (.text (.hole (.text (.hole (.text (.hole (.text
    (.hole (.text (.hole (.text (.hole (.text (.hole (.plainText ?_) ?_ ?_) ?_) ?_ ?_) ?_) ?_ ?_)
    ?_) ?_ ?_) ?_) ?_ ?_) ?_) ?_ ?_) ?_) ?_ ?_) ?_) ?_ ?_) ?_) ?_ ?_) ?_) ?_ ?_) ?_
  all_goals first
    | decide
    | rfl

theorem maintenanceStatement_eq (statusSchema statusTable table schema : Identifier) :
    maintenanceStatement statusSchema statusTable table schema =
      .ok ⟨"UPDATE " ++ statusSchema.quoted ++ "." ++ statusTable.quoted ++
        " SET idx_creation_finished = false WHERE spaceid = $1 AND schem = $2",
        [table.text, schema.text]⟩ := by
  refine Template.build_of_becomes ?_
  exact .append (.hole (.text (.hole (.plainText (by decide)) (by decide) rfl) (by decide))
    (by decide) rfl) (.noHole (by decide))

theorem createIndex_eq (schema : Identifier) {k : Index.Kind} {table name : Identifier}
    (hname : k.indexName table = .ok name) :
    k.statement schema table =
      .ok ⟨"CREATE INDEX IF NOT EXISTS " ++ name.quoted ++ " ON " ++ schema.quoted ++ "." ++
        table.quoted ++ " " ++ k.expression, []⟩ := by
  have hplain : '$' ∉ k.expression.toList := by cases k <;> decide
  rw [Index.Kind.statement, hname, Identifier.build_ok, ok_bind]
  refine Template.build_of_becomes ?_
  exact .text (.text (.hole (.text (.hole (.text (.hole (.plainText (by decide)) (by decide) rfl)
    (by decide)) (by decide) rfl) (by decide)) (by decide) rfl) (by decide)) hplain

/-! ### Verbs -/

theorem verb_exists (schema table : Identifier) :
    Verb.of? (existsStatement schema table) = some .probe := by
  have hopening : Verb.probe.opening.toList.isPrefixOf
      "SELECT count(*) FROM pg_catalog.pg_tables WHERE schemaname = $1 AND tablename = $2".toList =
        true := by
    decide
  exact Verb.of?_eq_some (List.isPrefixOf_iff_prefix.1 hopening)

theorem verb_listIndices (schema table : Identifier) :
    Verb.of? (listIndicesStatement schema table) = some .listIndices := by
  have hopening : Verb.listIndices.opening.toList.isPrefixOf
      "select * from xyz_index_list_all_available($1,$2)".toList = true := by
    decide
  exact Verb.of?_eq_some (List.isPrefixOf_iff_prefix.1 hopening)

theorem verb_claim {schema table : Identifier} {s : Statement}
    (h : claimStatement schema table = .ok s) : Verb.of? s = some .claim := by
  obtain ⟨counter, -, h⟩ := build_bind_eq_ok_iff.1 h
  refine Verb.of?_build (by decide) ?_ h
  simp only [Verb.opening, String.toList_append, List.append_assoc, List.prefix_append]

theorem verb_writeTrigger {schema table : Identifier} {stamp : RowStamp} {s : Statement}
    (h : writeTriggerStatement schema table stamp = .ok s) : Verb.of? s = some .createTrigger := by
  rw [writeTriggerStatement, triggerName_eq, Identifier.build_ok, ok_bind] at h
  refine Verb.of?_build (by decide) ?_ h
  simp only [Verb.opening, String.toList_append, List.append_assoc, List.prefix_append]

/-- A view in front of a table is created only where it has a name. -/
theorem viewName_of_createView {schema table : Identifier} {s : Statement}
    (h : createViewStatement schema table = .ok s) : ∃ view, viewName table = .ok view := by
  obtain ⟨trigger, -, h⟩ := build_bind_eq_ok_iff.1 h
  obtain ⟨view, hview, -⟩ := build_bind_eq_ok_iff.1 h
  exact ⟨view, hview⟩

theorem verb_createView {schema table : Identifier} {s : Statement}
    (h : createViewStatement schema table = .ok s) : Verb.of? s = some .createView := by
  obtain ⟨trigger, -, h⟩ := build_bind_eq_ok_iff.1 h
  obtain ⟨view, -, h⟩ := build_bind_eq_ok_iff.1 h
  refine Verb.of?_eq_some ?_
  -- the words are those of the fragment that the text begins with
  refine @Template.opening_of_fragment _ createViewTemplate "create_view" _
    (" ".toList ++ (fragmentHole "create_trigger").toList) s (by decide) ?_ rfl (by decide) ?_ h
  · simp only [String.toList_append, List.append_assoc]
  · unfold createViewTemplate
    simp only [Verb.opening, String.toList_append, List.append_assoc, List.prefix_append]

theorem verb_load {schema relation : Identifier} {format : Option CsvFormat}
    {target : LoadTarget} {r : LoadRequest} {s : Statement}
    (h : loadStatement schema relation format target r = .ok s) : Verb.of? s = some .load := by
  rw [loadStatement_eq] at h
  obtain rfl := Except.ok.inj h
  refine Verb.of?_eq_some ?_
  unfold loadIntoText
  simp only [Verb.opening, String.toList_append, List.append_assoc, List.prefix_append]

theorem verb_dropTrigger {schema table : Identifier} {s : Statement}
    (h : dropTriggerStatement schema table = .ok s) : Verb.of? s = some .dropTrigger := by
  rw [dropTriggerStatement_eq] at h
  obtain rfl := Except.ok.inj h
  refine Verb.of?_eq_some ?_
  simp only [Verb.opening, String.toList_append, List.append_assoc, List.prefix_append]

theorem verb_dropView {schema table : Identifier} {s : Statement}
    (h : dropViewStatement schema table = .ok s) : Verb.of? s = some .dropView := by
  obtain ⟨view, -, h⟩ := build_bind_eq_ok_iff.1 h
  refine Verb.of?_build (by decide) ?_ h
  simp only [Verb.opening, String.toList_append, List.append_assoc, List.prefix_append]

theorem verb_createIndex {k : Index.Kind} {schema table : Identifier} {s : Statement}
    (h : k.statement schema table = .ok s) : Verb.of? s = some .createIndex := by
  obtain ⟨name, -, h⟩ := build_bind_eq_ok_iff.1 h
  refine Verb.of?_build (by decide) ?_ h
  unfold Index.Kind.definition
  simp only [Verb.opening, String.toList_append, List.append_assoc, List.prefix_append]

theorem verb_maintenance {statusSchema statusTable table schema : Identifier} {s : Statement}
    (h : maintenanceStatement statusSchema statusTable table schema = .ok s) :
    Verb.of? s = some .markMaintenance := by
  refine Verb.of?_build (by decide) ?_ h
  simp only [Verb.opening, String.toList_append, List.append_assoc, List.prefix_append]

/-- A batch grows at its end only. -/
theorem text_of_dropIndicesFrom {t t' : Template} {place : Nat} {names : List String}
    (h : dropIndicesFrom t place names = .ok t') : t.text.toList <+: t'.text.toList := by
  induction names generalizing t place with
  | nil =>
    cases h
    exact List.prefix_rfl
  | cons name names ih =>
    obtain ⟨index, -, h⟩ := build_bind_eq_ok_iff.1 h
    refine List.IsPrefix.trans ?_ (ih h)
    rw [dropIndexToo, Template.append, Template.setVariable, String.toList_append]
    exact List.prefix_append _ _

theorem verb_dropIndices {schema : Identifier} {names : List String} {s : Statement}
    (hnames : names ≠ []) (h : dropIndicesStatement schema names = .ok s) :
    Verb.of? s = some .dropIndices := by
  -- the first index opens the batch, and the others come after it
  obtain ⟨name, names, rfl⟩ := List.exists_cons_of_ne_nil hnames
  obtain ⟨t, hbatch, h⟩ := bind_eq_ok_iff.1 h
  obtain ⟨index, -, hbatch⟩ := build_bind_eq_ok_iff.1 hbatch
  refine Verb.of?_build (by decide) ?_ h
  refine List.IsPrefix.trans ?_ (text_of_dropIndicesFrom hbatch)
  simp only [dropIndexToo, Template.append, Template.setVariable, Verb.opening,
    String.empty_append, String.toList_append, List.append_assoc, List.prefix_append]

end BulkImport.Table
