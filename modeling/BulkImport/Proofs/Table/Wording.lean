import BulkImport.Proofs.Sql.Tokens
import BulkImport.Proofs.Table.Batch

/-!
# No input changes the shape of a statement

What a statement that an import builds looks like depends on its form only: which builder it is
from, for how many names, and for which kind of index (`Form`).  A form has a wording, plain texts
with kinds of values between them, in which any values of these kinds can be read
(`constants_outline`).

Whatever goes into a statement (`Draft`), it is read as tokens that look as its form says, and the
values among them are exactly those that were supplied; where there is no statement, one of the
names that the builder makes up is none (`shape_of_draft`).
-/

namespace BulkImport.Table

open BulkImport.Sql
open BulkImport.Index (Kind)

/-! ### Forms -/

/-- What the look of a statement depends on. -/
inductive Form where
  | claim
  | listIndices
  | dropIndices (count : Nat)
  | writeTrigger
  | createView
  | load
  | createIndex (kind : Kind)
  | dropTrigger
  | dropView
  | markMaintenance

namespace Form

/-- The wording of a form; of a batch that drops indices, the wording for one of them. -/
def outline : Form → Wording ValueKind
  | claim => ⟨"SELECT nextval(", [(.literal, ")")]⟩
  | listIndices => ⟨"select * from xyz_index_list_all_available($1,$2)", []⟩
  | dropIndices _ => ⟨"DROP INDEX IF EXISTS ", [(.name, "."), (.name, " CASCADE;")]⟩
  | writeTrigger =>
    ⟨"CREATE OR REPLACE TRIGGER ",
      [(.name, " BEFORE INSERT ON "), (.name, "."),
        (.name, " FOR EACH ROW EXECUTE PROCEDURE "), (.name, ".xyz_import_trigger("),
        (.literal, ", "), (.boolean, ", "), (.boolean, ", "), (.number, ", "), (.literal, ", "),
        (.boolean, ")")]⟩
  | createView =>
    ⟨"CREATE OR REPLACE VIEW ",
      [(.name, "."), (.name, " AS SELECT t.jsondata AS data, t.geo AS geo FROM "), (.name, "."),
        (.name, " t;" ++ " " ++ "CREATE OR REPLACE TRIGGER "),
        (.name, " INSTEAD OF INSERT ON "), (.name, "."),
        (.name, " FOR EACH ROW EXECUTE PROCEDURE xyz_viewTrigger_wkbv2("),
        (.literal, ", "), (.literal, ", "), (.literal, ");")]⟩
  | load =>
    ⟨"SELECT aws_s3.table_import_from_s3(",
      [(.literal, ", "), (.literal, ", "), (.literal, ", aws_commons.create_s3_uri("),
        (.literal, ", "), (.literal, ", "), (.literal, ")), "),
        (.literal, " as iml_import_hint")]⟩
  | createIndex k =>
    ⟨"CREATE INDEX IF NOT EXISTS ",
      [(.name, " ON "), (.name, "."), (.name, " " ++ k.expression)]⟩
  | dropTrigger => ⟨"DROP TRIGGER IF EXISTS ", [(.name, " ON "), (.name, "."), (.name, "")]⟩
  | dropView => ⟨"DROP VIEW IF EXISTS ", [(.name, "."), (.name, "")]⟩
  | markMaintenance =>
    ⟨"UPDATE ",
      [(.name, "."),
        (.name, " SET idx_creation_finished = false WHERE spaceid = $1 AND schem = $2")]⟩

/-- The values that the text of a form has itself. -/
def constants : Form → List Token
  | createIndex .id => [.literal "id"]
  | createIndex .createdAt =>
    [.literal "properties", .literal "@ns:com:here:xyz", .literal "createdAt", .literal "id"]
  | createIndex .updatedAt =>
    [.literal "properties", .literal "@ns:com:here:xyz", .literal "updatedAt", .literal "id"]
  | createIndex .tags => [.literal "properties", .literal "@ns:com:here:xyz", .literal "tags"]
  | createIndex .viz => [.literal "", .number 5]
  | markMaintenance => [.boolean false]
  | _ => []

/-- What the statements of a form look like: their tokens, but of the values only the kinds. -/
def shape : Form → List Token
  | dropIndices count => (List.replicate count (dropIndices count).outline.shape).flatten
  | f => f.outline.shape

/-- Values of the kinds of a form can be read in its wording, whatever they are. -/
theorem constants_outline (f : Form) : f.outline.constants = some f.constants := by
  cases f with
  | createIndex k => cases k <;> decide +kernel
  | dropIndices count => exact (by decide +kernel : (dropIndices 0).outline.constants = some [])
  | claim | listIndices | writeTrigger | createView | load | dropTrigger | dropView
      | markMaintenance => decide +kernel

end Form

/-! ### Drafts -/

/-- A statement that an import may want, with all that goes into it. -/
inductive Draft where
  | claim (schema table : Identifier)
  | listIndices (schema table : Identifier)
  | dropIndices (schema : Identifier) (names : List String)
  | writeTrigger (schema table : Identifier) (stamp : RowStamp)
  | createView (schema table : Identifier)
  | load (schema relation : Identifier) (format : Option CsvFormat) (target : LoadTarget)
      (request : LoadRequest)
  | createIndex (kind : Kind) (schema table : Identifier)
  | dropTrigger (schema table : Identifier)
  | dropView (schema table : Identifier)
  | markMaintenance (statusSchema statusTable table schema : Identifier)

namespace Draft

/-- What the builder makes of a draft. -/
def statement : Draft → Except BuildError Statement
  | claim schema table => claimStatement schema table
  | listIndices schema table => .ok (listIndicesStatement schema table)
  | dropIndices schema names => dropIndicesStatement schema names
  | writeTrigger schema table stamp => writeTriggerStatement schema table stamp
  | createView schema table => createViewStatement schema table
  | load schema relation format target request =>
    (loadStatement schema relation format target request).mapError .template
  | createIndex k schema table => k.statement schema table
  | dropTrigger schema table => dropTriggerStatement schema table
  | dropView schema table => dropViewStatement schema table
  | markMaintenance statusSchema statusTable table schema =>
    maintenanceStatement statusSchema statusTable table schema

def form : Draft → Form
  | claim _ _ => .claim
  | listIndices _ _ => .listIndices
  | dropIndices _ names => .dropIndices names.length
  | writeTrigger _ _ _ => .writeTrigger
  | createView _ _ => .createView
  | load _ _ _ _ _ => .load
  | createIndex k _ _ => .createIndex k
  | dropTrigger _ _ => .dropTrigger
  | dropView _ _ => .dropView
  | markMaintenance _ _ _ _ => .markMaintenance

/-- The names that the builder of a draft makes up or is given as texts. -/
def coined : Draft → List String
  | claim _ table => [table.text ++ "_version_seq"]
  | dropIndices _ names => names
  | createView _ table | dropView _ table => [table.text ++ "_view"]
  | createIndex k _ table => [Text.fold ("idx_" ++ table.text ++ "_" ++ k.key)]
  | listIndices _ _ | writeTrigger _ _ _ | load _ _ _ _ _ | dropTrigger _ _
  | markMaintenance _ _ _ _ => []

/-- The values that a draft supplies, in the order in which they stand in its statement, after which
come those of its form. -/
def supplied : Draft → List Token
  | claim schema table =>
    [.literal (schema.quoted ++ "." ++ ("\"" ++ (table.text ++ "_version_seq") ++ "\""))]
  | listIndices _ _ => []
  | dropIndices schema names => names.flatMap fun name => [.name schema.text, .name name]
  | writeTrigger schema table stamp =>
    [.name "inserttrigger", .name schema.text, .name table.text, .name schema.text,
      .literal "TBD", .boolean false, .boolean stamp.enableUuid, .number stamp.version.toInt,
      .literal stamp.author, .boolean stamp.layout.isLegacy]
  | createView schema table =>
    [.name schema.text, .name (table.text ++ "_view"), .name schema.text, .name table.text,
      .name "inserttrigger", .name schema.text, .name (table.text ++ "_view"), .literal "TBD",
      .literal schema.text, .literal table.text]
  | load schema relation format target request =>
    [.literal (schema.quoted ++ "." ++ relation.quoted), .literal (columns format target),
      .literal copyOptions, .literal request.bucket, .literal request.key,
      .literal request.region, .literal (request.key ++ ":" ++ toString request.size.toNat)]
  | createIndex k schema table =>
    [.name (Text.fold ("idx_" ++ table.text ++ "_" ++ k.key)), .name schema.text,
      .name table.text]
  | dropTrigger schema table => [.name "inserttrigger", .name schema.text, .name table.text]
  | dropView schema table => [.name schema.text, .name (table.text ++ "_view")]
  | markMaintenance statusSchema statusTable _ _ =>
    [.name statusSchema.text, .name statusTable.text]

/-- A draft has a statement, which looks as its form says and has the values that were supplied. -/
def Keeps (d : Draft) : Prop :=
  ∃ s ts, d.statement = .ok s ∧ tokens s.text = some ts ∧ ts.map Token.blank = d.form.shape ∧
    ts.filter Token.isValue = d.supplied ++ d.form.constants

/-- A draft has no statement, because a name that its builder makes up is none. -/
def Refused (d : Draft) : Prop :=
  ∃ name ∈ d.coined, ∃ e, Identifier.ofText name = .error e ∧
    d.statement = .error (.identifier e)

/-- A statement whose text is the wording of its form with values in it. -/
theorem keeps_of_fill {d : Draft} {s : Statement} (values : List Value)
    (hbuilt : d.statement = .ok s) (htext : s.text = (d.form.outline.fill values).text)
    (hshape : d.form.shape = d.form.outline.shape)
    (hkinds : values.map Value.kind = d.form.outline.rest.map Prod.fst)
    (hvalues : values.map Value.token = d.supplied) : d.Keeps := by
  obtain ⟨ts, hread, hblank, hfilter⟩ := Wording.tokens_fill hkinds d.form.constants_outline
  rw [← htext] at hread
  rw [hvalues] at hfilter
  exact ⟨s, ts, hbuilt, hread, hblank.trans hshape.symm, hfilter⟩

end Draft

/-! ### Batches -/

/-- One part of a batch is read for itself. -/
theorem tokens_dropText (schema index : Identifier) (count : Nat) :
    ∃ ts, tokens (dropText schema index.text) = some ts ∧
      ts.map Token.blank = (Form.dropIndices count).outline.shape ∧
      ts.filter Token.isValue = [.name schema.text, .name index.text] := by
  have hkinds : [Value.identifier schema, .identifier index].map Value.kind =
      (Form.dropIndices count).outline.rest.map Prod.fst := rfl
  obtain ⟨ts, hread, hblank, hfilter⟩ :=
    Wording.tokens_fill hkinds (Form.dropIndices count).constants_outline
  have htext : dropText schema index.text = (Wording.fill (Form.dropIndices count).outline
      [.identifier schema, .identifier index]).text := by
    unfold dropText
    simp only [Form.outline, Wording.text_fill_cons, Wording.text_fill_nil,
      Value.render_identifier, Identifier.quoted, String.append_assoc]
  exact ⟨ts, htext ▸ hread, hblank, hfilter⟩

theorem exists_dropText_semicolon (schema : Identifier) (name : String) :
    ∃ start, dropText schema name = start ++ ";" :=
  have hlast : " CASCADE;" = " CASCADE" ++ ";" := by decide +kernel
  ⟨_, (congrArg (_ ++ ·) hlast).trans String.append_assoc.symm⟩

/-- A batch is read part by part. -/
theorem tokens_batch (schema : Identifier) {names : List String}
    (hnames : ∀ name ∈ names, ∃ index : Identifier, index.text = name) :
    ∃ ts, tokens (String.join (names.map (dropText schema))) = some ts ∧
      ts.map Token.blank = (Form.dropIndices names.length).shape ∧
      ts.filter Token.isValue = names.flatMap fun name => [.name schema.text, .name name] := by
  induction names with
  | nil => exact ⟨[], rfl, rfl, rfl⟩
  | cons name names ih =>
    obtain ⟨⟨index, rfl⟩, hothers⟩ := List.forall_mem_cons.1 hnames
    obtain ⟨ts, hread, hblank, hfilter⟩ := tokens_dropText schema index 0
    obtain ⟨more, hmore, hblanks, hfilters⟩ := ih hothers
    obtain ⟨start, hstart⟩ := exists_dropText_semicolon schema index.text
    refine ⟨ts ++ more, ?_, ?_, ?_⟩
    · rw [List.map_cons, String.join_cons, hstart, tokens_semicolon (hstart ▸ hread), hmore]
      rfl
    · rw [List.map_append, hblank, hblanks]
      rfl
    · rw [List.filter_append, hfilter, hfilters]
      rfl

/-! ### All of them -/

namespace Draft

/-- A draft whose builder makes up one name is kept where it is an identifier, and refused
otherwise. -/
theorem keeps_or_refused {d : Draft} {name : String} (hcoined : name ∈ d.coined)
    (hkeeps : ∀ i, Identifier.ofText name = .ok i → i.text = name → d.Keeps)
    (hrefused : ∀ e, Identifier.ofText name = .error e → d.statement = .error (.identifier e)) :
    d.Keeps ∨ d.Refused := by
  cases h : Identifier.ofText name with
  | ok i => exact .inl (hkeeps i h (Identifier.text_of_ofText h))
  | error e => exact .inr ⟨name, hcoined, e, h, hrefused e h⟩

theorem claim_cases (schema table : Identifier) :
    (claim schema table).Keeps ∨ (claim schema table).Refused := by
  refine keeps_or_refused (List.mem_singleton_self _) (fun counter hname htext => ?_)
    fun e he => ?_
  · refine keeps_of_fill [.literal (schema.quoted ++ "." ++ counter.quoted)]
      (claimStatement_eq schema hname) ?_ rfl rfl ?_
    · simp only [form, Form.outline, Wording.text_fill_cons, Wording.text_fill_nil,
        String.append_assoc]
    · rw [supplied, ← htext]
      rfl
  · rw [statement, claimStatement, versionSequence, Identifier.withSuffix, he]
    rfl

theorem dropIndices_cases (schema : Identifier) (names : List String) :
    (dropIndices schema names).Keeps ∨ (dropIndices schema names).Refused := by
  rcases dropIndicesFrom_cases { text := "", bindings := [("schema", .identifier schema)] } 0
      names with ⟨t, hbatch, hnames⟩ | ⟨before, name, after, e, hplace, -, he, hbatch⟩
  · obtain ⟨ts, hread, hblank, hfilter⟩ := tokens_batch schema hnames
    have hvalues : ts.filter Token.isValue = (dropIndices schema names).supplied ++ [] := by
      rw [List.append_nil]
      exact hfilter
    exact .inl ⟨⟨_, []⟩, ts, statement_of_dropIndicesFrom hbatch, hread, hblank, hvalues⟩
  · refine .inr ⟨name, hplace ▸ List.mem_append_cons_self, e, he, ?_⟩
    simp only [statement, dropIndicesStatement, hbatch]
    rfl

theorem writeTrigger_keeps (schema table : Identifier) (stamp : RowStamp) :
    (writeTrigger schema table stamp).Keeps := by
  refine keeps_of_fill [.identifier insertTrigger, .identifier schema,
    .identifier table, .identifier schema, resourceTag, .boolean false,
    .boolean stamp.enableUuid, .integer stamp.version, .literal stamp.author,
    .boolean stamp.layout.isLegacy] (writeTriggerStatement_eq schema table stamp) ?_ rfl rfl rfl
  simp only [form, Form.outline, Wording.text_fill_cons, Wording.text_fill_nil,
    Value.render_identifier, String.append_assoc]

theorem createView_cases (schema table : Identifier) :
    (createView schema table).Keeps ∨ (createView schema table).Refused := by
  refine keeps_or_refused (List.mem_singleton_self _) (fun view hname htext => ?_)
    fun e he => ?_
  · refine keeps_of_fill [.identifier schema, .identifier view,
      .identifier schema, .identifier table, .identifier insertTrigger, .identifier schema,
      .identifier view, resourceTag, .literal schema.text, .literal table.text]
      (createViewStatement_eq schema hname) ?_ rfl rfl ?_
    · simp only [form, Form.outline, Wording.text_fill_cons, Wording.text_fill_nil,
        Value.render_identifier, String.append_assoc]
    · rw [supplied, ← htext]
      rfl
  · rw [statement, createViewStatement, triggerName_eq, Identifier.build_ok, ok_bind, viewName,
      Identifier.withSuffix, he]
    rfl

theorem load_keeps (schema relation : Identifier) (format : Option CsvFormat)
    (target : LoadTarget) (request : LoadRequest) :
    (load schema relation format target request).Keeps := by
  have hbuilt := congrArg (Except.mapError BuildError.template)
    (loadStatement_eq schema relation format target request)
  refine keeps_of_fill [.literal (schema.quoted ++ "." ++ relation.quoted),
    .literal (columns format target), .literal copyOptions, .literal request.bucket,
    .literal request.key, .literal request.region,
    .literal (request.key ++ ":" ++ toString request.size.toNat)] hbuilt ?_ rfl rfl rfl
  unfold loadIntoText
  simp only [form, Form.outline, Wording.text_fill_cons, Wording.text_fill_nil,
    String.append_assoc]

theorem createIndex_cases (k : Kind) (schema table : Identifier) :
    (createIndex k schema table).Keeps ∨ (createIndex k schema table).Refused := by
  refine keeps_or_refused (List.mem_singleton_self _) (fun name hname htext => ?_)
    fun e he => ?_
  · refine keeps_of_fill [.identifier name, .identifier schema, .identifier table]
      (createIndex_eq schema hname) ?_ rfl rfl ?_
    · simp only [form, Form.outline, Wording.text_fill_cons, Wording.text_fill_nil,
        Value.render_identifier, String.append_assoc]
    · rw [supplied, ← htext]
      rfl
  · rw [statement, Kind.statement, Kind.indexName, he]
    rfl

theorem dropTrigger_keeps (schema table : Identifier) : (dropTrigger schema table).Keeps := by
  refine keeps_of_fill [.identifier insertTrigger, .identifier schema,
    .identifier table] (dropTriggerStatement_eq schema table) ?_ rfl rfl rfl
  simp only [form, Form.outline, Wording.text_fill_cons, Wording.text_fill_nil,
    Value.render_identifier, String.append_assoc, String.append_empty]

theorem dropView_cases (schema table : Identifier) :
    (dropView schema table).Keeps ∨ (dropView schema table).Refused := by
  refine keeps_or_refused (List.mem_singleton_self _) (fun view hname htext => ?_)
    fun e he => ?_
  · refine keeps_of_fill [.identifier schema, .identifier view]
      (dropViewStatement_eq schema hname) ?_ rfl rfl ?_
    · simp only [form, Form.outline, Wording.text_fill_cons, Wording.text_fill_nil,
        Value.render_identifier, String.append_assoc, String.append_empty]
    · rw [supplied, ← htext]
      rfl
  · rw [statement, dropViewStatement, viewName, Identifier.withSuffix, he]
    rfl

theorem markMaintenance_keeps (statusSchema statusTable table schema : Identifier) :
    (markMaintenance statusSchema statusTable table schema).Keeps := by
  refine keeps_of_fill [.identifier statusSchema, .identifier statusTable]
    (maintenanceStatement_eq statusSchema statusTable table schema) ?_ rfl rfl rfl
  simp only [form, Form.outline, Wording.text_fill_cons, Wording.text_fill_nil,
    Value.render_identifier, String.append_assoc]

theorem listIndices_keeps (schema table : Identifier) : (listIndices schema table).Keeps :=
  keeps_of_fill [] rfl rfl rfl rfl rfl

end Draft

/-- Whatever goes into it, a statement is read as tokens that look as its form says, and the values
among them are those that were supplied and those of its form; and there is a statement unless one
of the names that its builder makes up is none. -/
theorem shape_of_draft (d : Draft) : d.Keeps ∨ d.Refused := by
  cases d with
  | claim schema table => exact Draft.claim_cases schema table
  | listIndices schema table => exact .inl (Draft.listIndices_keeps schema table)
  | dropIndices schema names => exact Draft.dropIndices_cases schema names
  | writeTrigger schema table stamp => exact .inl (Draft.writeTrigger_keeps schema table stamp)
  | createView schema table => exact Draft.createView_cases schema table
  | load schema relation format target request =>
    exact .inl (Draft.load_keeps schema relation format target request)
  | createIndex k schema table => exact Draft.createIndex_cases k schema table
  | dropTrigger schema table => exact .inl (Draft.dropTrigger_keeps schema table)
  | dropView schema table => exact Draft.dropView_cases schema table
  | markMaintenance statusSchema statusTable table schema =>
    exact .inl (Draft.markMaintenance_keeps statusSchema statusTable table schema)

end BulkImport.Table
