import BulkImport.Proofs.Import.Inventory
import BulkImport.Proofs.Import.Judgment
import Mathlib.Data.List.Basic

/-!
# What a finalization comes to

A finalization sends the statements of the planned indices, then the drops of the facade whatever
became of those, and the mark of the table when nothing was in the way of the drops
(`Closes.replies`).  The drops alone decide whether it fails (`Closes.result`), and what became of
the indices is put on the job in both cases (`Closes.listed`, `Closes.described`).  An entry tells
its kind and its table (`Kind.entryNamed_inj`), so that no index is lost where entries are listed
once.
-/

namespace BulkImport

open BulkImport.Job BulkImport.Sql BulkImport.Table BulkImport.Program BulkImport.Index

namespace Index.Kind

instance : Vocabulary.Distinct Kind := ⟨fun k => by cases k <;> rfl⟩

theorem at_not_mem_key (k : Kind) : '@' ∉ k.key.toList := by cases k <;> decide

/-- An entry tells the kind and the table that it is for: no key has the sign that ends it. -/
theorem entryNamed_inj {k k' : Kind} {table table' : String} :
    k.entryNamed table = k'.entryNamed table' ↔ k = k' ∧ table = table' := by
  refine ⟨fun h => ?_, fun ⟨hk, ht⟩ => by rw [hk, ht]⟩
  have hchars : k.key.toList ++ '@' :: table.toList = k'.key.toList ++ '@' :: table'.toList := by
    simpa [entryNamed] using congrArg String.toList h
  have hkey : ∀ (k : Kind) (rest : List Char),
      (k.key.toList ++ '@' :: rest).takeWhile (· ≠ '@') = k.key.toList := by
    intro k rest
    rw [List.takeWhile_append_of_pos fun c hc => ?_]
    · simp
    · have hne : c ≠ '@' := fun he => k.at_not_mem_key (he ▸ hc)
      simpa using hne
  have hsame := congrArg (List.takeWhile (· ≠ '@')) hchars
  rw [hkey, hkey] at hsame
  obtain rfl : k = k' := Vocabulary.word_injective (String.toList_inj.1 hsame)
  exact ⟨rfl, String.toList_inj.1 (List.cons.inj (List.append_cancel_left hchars)).2⟩

end Index.Kind

namespace Import.Importer

variable {im : Importer} {job : ImportJob} {c : String} {t : Identifier} {h : History}

/-! ### The drops -/

/-- Takes the trigger off a table. -/
def triggerDrop (im : Importer) (t : Identifier) : Statement :=
  ⟨"DROP TRIGGER IF EXISTS " ++ insertTrigger.quoted ++ " ON " ++ im.settings.schema.quoted ++ "." ++
    t.quoted, []⟩

/-- Takes the view of a table away, where there is one and it has a name. -/
def viewDrop? (im : Importer) (t : Identifier) : Option Statement :=
  if im.settings.useViewFacade then
    (viewName t).toOption.map fun view =>
      ⟨"DROP VIEW IF EXISTS " ++ im.settings.schema.quoted ++ "." ++ view.quoted, []⟩
  else none

/-- Marks a table for maintenance. -/
def maintenanceMark (im : Importer) (t : Identifier) : Statement :=
  ⟨"UPDATE " ++ im.settings.statusSchema.quoted ++ "." ++ im.settings.statusTable.quoted ++
    " SET idx_creation_finished = false WHERE spaceid = $1 AND schem = $2",
    [t.text, im.settings.schema.text]⟩

/-- What a drop that was answered so is reported as. -/
def refusal : Except Database.Error Unit → List Failure
  | .ok _ => []
  | .error e => [.ofDatabase .finalization e]

/-- What is reported of the view of a table, when its drop is answered so.  A view without a name
cannot be dropped. -/
def viewRefusal (im : Importer) (t : Identifier) (answer : Except Database.Error Unit) :
    List Failure :=
  if im.settings.useViewFacade then
    match viewName t with
    | .ok _ => refusal answer
    | .error e => [.ofBuild .finalization (.identifier e)]
  else []

/-- What is reported of a drop is what it is answered. -/
theorem failure?_mapError (a : Except Database.Error Unit) :
    (failure? (a.mapError (Failure.ofDatabase .finalization))).toList = refusal a := by
  cases a <;> rfl

theorem dropTrigger_told {r : Except Failure Unit}
    (hp : Answered (dropTrigger c im.settings.schema t).run h r) :
    ∃ a, replies h = [(⟨c, im.triggerDrop t⟩, a)] ∧ (failure? r).toList = refusal a := by
  rw [dropTrigger, dropTriggerStatement_eq] at hp
  rcases executeBuilt_cases hp with ⟨e, he, -⟩ | ⟨s, a, hs, rfl, rfl⟩
  · cases he
  · cases hs
    exact ⟨a, rfl, failure?_mapError a⟩

theorem dropView_told {r : Except Failure Unit} (huse : im.settings.useViewFacade = true)
    (hp : Answered (dropView c im.settings.schema t).run h r) :
    ∃ a, replies h = (im.viewDrop? t).toList.map (fun s => (⟨c, s⟩, a)) ∧
      (failure? r).toList = im.viewRefusal t a := by
  simp only [viewDrop?, viewRefusal, if_pos huse]
  rw [dropView] at hp
  cases hview : viewName t with
  | error e =>
    -- no statement is sent, and the name is what is reported
    have hnone : dropViewStatement im.settings.schema t = .error (.identifier e) := by
      rw [dropViewStatement, hview]
      rfl
    rw [hnone] at hp
    rcases executeBuilt_cases hp with ⟨e', he, rfl, rfl⟩ | ⟨s, a, hs, -, -⟩
    · cases he
      exact ⟨.ok (), rfl, rfl⟩
    · cases hs
  | ok view =>
    rw [dropViewStatement_eq _ hview] at hp
    rcases executeBuilt_cases hp with ⟨e, he, -⟩ | ⟨s, a, hs, rfl, rfl⟩
    · cases he
    · cases hs
      exact ⟨a, rfl, failure?_mapError a⟩

/-- Taking a facade down sends its drops whatever the database says to them, and reports what was in
the way. -/
theorem tearDown_told {failures : List Failure} (hp : Answered (im.tearDown c t) h failures) :
    ∃ trigger view,
      replies h = (⟨c, im.triggerDrop t⟩, trigger) ::
        (im.viewDrop? t).toList.map (fun s => (⟨c, s⟩, view)) ∧
      failures = refusal trigger ++ im.viewRefusal t view := by
  unfold tearDown at hp
  obtain ⟨h₁, h₂, rt, rfl, htrigger, hrest⟩ := answered_andThen.1 hp
  obtain ⟨trigger, hsent, hfailed⟩ := dropTrigger_told htrigger
  dsimp only at hrest
  split at hrest
  · next huse =>
    obtain ⟨h₃, h₄, rv, rfl, hview, hend⟩ := answered_andThen.1 hrest
    obtain ⟨rfl, rfl⟩ := answered_pure.1 hend
    obtain ⟨view, hsent', hfailed'⟩ := dropView_told huse hview
    refine ⟨trigger, view, by simp [hsent, hsent'], ?_⟩
    rw [← hfailed, ← hfailed']
    cases rt <;> cases rv <;> rfl
  · next huse =>
    obtain ⟨h₃, h₄, rv, rfl, hview, hend⟩ := answered_andThen.1 hrest
    obtain ⟨rfl, rfl⟩ := answered_pure.1 hview
    obtain ⟨rfl, rfl⟩ := answered_pure.1 hend
    refine ⟨trigger, .ok (), by simp [hsent, viewDrop?, huse], ?_⟩
    rw [← hfailed, viewRefusal, if_neg huse]
    cases rt <;> rfl

/-! ### The end of an import -/

/-- What a finalization sends and what it comes to, told from what the statements of the planned
indices, the drops and the mark are answered. -/
structure Closes (im : Importer) (job : ImportJob) (c : String) (t : Identifier)
    (answers : PlannedIndex → Except Database.Error Unit)
    (trigger view mark : Except Database.Error Unit) (h : History) (o : Outcome) : Prop where
  /-- Every statement of a planned index comes first, then the drop of the trigger, then that of the
  view where there is one, and last the mark where nothing was in the way of the drops. -/
  replies : replies h =
    (plannedIndices im.settings.layout im.settings.segments).filterMap (fun x =>
      (x.statement? im.settings.schema t).map fun s => (⟨c, s⟩, answers x)) ++
    ((⟨c, im.triggerDrop t⟩, trigger) ::
      ((im.viewDrop? t).toList.map (fun s => (⟨c, s⟩, view)) ++
        if refusal trigger ++ im.viewRefusal t view = [] then
          [(⟨c, im.maintenanceMark t⟩, mark)]
        else []))
  /-- It fails exactly when something was in the way of the drops, and then reports that in order. -/
  result : o.2 =
    if refusal trigger ++ im.viewRefusal t view = [] then .ok ()
    else .error (.tableCleanupFailed (String.intercalate "; "
      ((refusal trigger ++ im.viewRefusal t view).map (·.message))))
  /-- The indices that were built are listed after those that were listed before, each once and in
  the order of the plan. -/
  listed : o.1.indexEntries = job.indexEntries ++
    ((((plannedIndices im.settings.layout im.settings.segments).filter fun x =>
      x.isBuilt im.settings.schema t (answers x)).map (·.entry t)).filter
        (· ∉ job.indexEntries)).eraseDups
  described : o.1.errorDescription =
    if ∀ x ∈ plannedIndices im.settings.layout im.settings.segments,
        x.isBuilt im.settings.schema t (answers x) = true then job.errorDescription
    else some .idxCreationFailed
  /-- Nothing else of the job changes. -/
  kept : o.1 = { job with
    indexEntries := o.1.indexEntries, errorDescription := o.1.errorDescription }

/-- What a rebuild puts on the job. -/
theorem afterRebuild_told {answers : PlannedIndex → Except Database.Error Unit} {report : Report}
    (hr : Reckoning c im.settings.schema t im.settings.layout im.settings.segments answers h
      report) :
    afterRebuild job report = { job with
      indexEntries := job.indexEntries ++
        ((((plannedIndices im.settings.layout im.settings.segments).filter fun x =>
          x.isBuilt im.settings.schema t (answers x)).map (·.entry t)).filter
            (· ∉ job.indexEntries)).eraseDups
      errorDescription :=
        if ∀ x ∈ plannedIndices im.settings.layout im.settings.segments,
            x.isBuilt im.settings.schema t (answers x) = true then job.errorDescription
        else some .idxCreationFailed } := by
  have hcomplete : report.isComplete = true ↔
      ∀ x ∈ plannedIndices im.settings.layout im.settings.segments,
        x.isBuilt im.settings.schema t (answers x) = true := by
    have hnone : report.missing = [] ↔ report.missing.map (·.entry) = [] := by simp
    rw [Report.isComplete, List.isEmpty_iff, hnone, hr.missing]
    simp [List.filter_eq_nil_iff]
  rw [afterRebuild, ImportJob.foldl_addIndex, hr.built]
  simp only [hcomplete]
  split <;> rfl

theorem finalize_told {registry : String → Except Database.Error Unit} {o : Outcome}
    (hl : Located registry job c t) (hf : Follows registry h)
    (hp : Answered (im.finalize job) h o) :
    ∃ answers trigger view mark, Closes im job c t answers trigger view mark h o := by
  cases finalized_of_answered hp with
  | lost htarget =>
    obtain ⟨hfound, -⟩ := target_located hl hf htarget
    cases hfound
  | @standing c' t' report failures h₁ h₂ h₃ htarget hrebuild hdown hfailures =>
    obtain ⟨hfound, rfl⟩ := target_located hl (follows_append.1 hf).1 htarget
    cases hfound
    obtain ⟨answers, hr⟩ := rebuild_reckoned hrebuild
    obtain ⟨trigger, view, hsent, rfl⟩ := tearDown_told hdown
    refine ⟨answers, trigger, view, .ok (), ?_, ?_, ?_, ?_, ?_⟩
    · simp [hr.replies, hsent, hfailures, Question.replies]
    · simp [hfailures]
    all_goals rw [afterRebuild_told hr]
  | @down c' t' report s a h₁ h₂ h₃ htarget hrebuild hdown hmark =>
    obtain ⟨hfound, rfl⟩ := target_located hl (follows_append.1 hf).1 htarget
    cases hfound
    obtain ⟨answers, hr⟩ := rebuild_reckoned hrebuild
    obtain ⟨trigger, view, hsent, hnone⟩ := tearDown_told hdown
    rw [maintenanceStatement_eq] at hmark
    cases hmark
    refine ⟨answers, trigger, view, a, ?_, ?_, ?_, ?_, ?_⟩
    · simp [hr.replies, hsent, ← hnone, Question.replies, maintenanceMark]
    · simp [← hnone]
    all_goals rw [afterRebuild_told hr]

/-- Where the connector is known and the table has a name, a finalization takes the facade down
whatever becomes of the indices, fails only where something is in the way of that, and puts on the
job in both cases which indices were built.  A planned index is built exactly when it can be named
and its statement was carried out, and the entries of two indices are the same only when these are
of one kind and on one table. -/
theorem finalization_closes {registry : String → Except Database.Error Unit} {o : Outcome}
    (hl : Located registry job c t) (hf : Follows registry h)
    (hp : Answered (im.finalize job) h o) :
    (∃ answers trigger view mark, Closes im job c t answers trigger view mark h o) ∧
      (∀ (x : PlannedIndex) s, x.statement? im.settings.schema t = some s ↔
        x.Named im.settings.schema t s) ∧
      (∀ (x : PlannedIndex) answer, x.isBuilt im.settings.schema t answer = true ↔
        (∃ s, x.Named im.settings.schema t s) ∧ answer = .ok ()) ∧
      ∀ (k k' : Index.Kind) (table table' : String),
        k.entryNamed table = k'.entryNamed table' ↔ k = k' ∧ table = table' :=
  ⟨finalize_told hl hf hp, fun _ _ => PlannedIndex.statement?_eq_some_iff,
    fun _ _ => PlannedIndex.isBuilt_iff, fun _ _ _ _ => Index.Kind.entryNamed_inj⟩

/-- What passes while the import of the roads is finalized, and what comes of it, where the first of
its indices is refused. -/
def roadsClosed : History × Outcome :=
  ({ viewImporter with settings := { viewImporter.settings with segments := [.root] } }
    : Importer).finalize roadsJob |>.carryOut refuseFirst

/-- The facade of the roads is taken down although an index is missing, and the job says so. -/
theorem roads_closed :
    Located (fun _ => .ok ()) roadsJob "db" roads ∧
      (∃ answers trigger view mark,
        Closes { viewImporter with settings := { viewImporter.settings with segments := [.root] } }
          roadsJob "db" roads answers trigger view mark roadsClosed.1 roadsClosed.2) ∧
      roadsClosed.2.2.isOk = true ∧
      roadsClosed.2.1.errorDescription = some .idxCreationFailed := by
  have hl : Located (fun _ => .ok ()) roadsJob "db" roads := ⟨rfl, rfl, rfl⟩
  have hf : Follows (fun _ => .ok ()) roadsClosed.1 := fun _ _ ha => answer_of_mem_carryOut ha
  exact ⟨hl, (finalization_closes hl hf (answered_carryOut refuseFirst _)).1, by decide +kernel,
    by decide +kernel⟩

end Import.Importer

end BulkImport
