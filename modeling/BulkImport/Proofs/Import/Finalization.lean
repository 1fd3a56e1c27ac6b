import BulkImport.Proofs.Import.Validation
import BulkImport.Proofs.Job.Life

/-!
# What a finalization does

The facade of a table is taken down by the same calls whatever the database says to them
(`tearDown_calls`): its trigger always goes, and its view where there is one (`downCalls_eq`).  A
finalization that finds its target creates indices, then takes the facade down, and then may mark
the table for maintenance (`Finalized`, `finalize_cases`); none of its failures counts as found
before the table was changed (`finalize_failure`).
-/

namespace BulkImport.Import

open BulkImport.Job BulkImport.Sql BulkImport.Table BulkImport.Program

namespace Importer

variable {im : Importer}

/-- The call that takes the view of a table away, where loads go through one that has a name. -/
def downView (im : Importer) (connector : String) (table : Identifier) : List Call :=
  if im.settings.useViewFacade then
    (dropViewStatement im.settings.schema table).toOption.toList.map fun s => ⟨connector, s⟩
  else []

/-- The calls that take the facade of a table down. -/
def downCalls (im : Importer) (connector : String) (table : Identifier) : List Call :=
  ((dropTriggerStatement im.settings.schema table).toOption.toList.map fun s => ⟨connector, s⟩) ++
    im.downView connector table

theorem executeBuilt_call {stage : Stage} {connector : String} {x : Except BuildError Statement}
    {h : History} {r : Except Failure Unit}
    (hp : Answered (executeBuilt stage connector x).run h r) :
    Sends h (x.toOption.toList.map fun s => ⟨connector, s⟩) := by
  rcases executeBuilt_cases hp with ⟨e, rfl, rfl, -⟩ | ⟨s, a, rfl, rfl, -⟩
  · exact ⟨rfl, rfl⟩
  · exact ⟨rfl, rfl⟩

/-- The facade is taken down whatever the database says to it. -/
theorem tearDown_calls {connector : String} {table : Identifier} {h : History}
    {failures : List Failure} (hp : Answered (im.tearDown connector table) h failures) :
    Sends h (im.downCalls connector table) := by
  unfold tearDown at hp
  obtain ⟨h₁, h₂, trigger, rfl, htrigger, hrest⟩ := answered_andThen.1 hp
  refine (executeBuilt_call htrigger).append ?_
  unfold downView
  dsimp only at hrest
  split at hrest
  · next huse =>
    -- what became of the trigger is kept for later and does not stop the view
    obtain ⟨h₃, h₄, view, rfl, hview, hend⟩ := answered_andThen.1 hrest
    obtain ⟨rfl, -⟩ := answered_pure.1 hend
    rw [List.append_nil, if_pos huse]
    exact executeBuilt_call hview
  · next huse =>
    obtain ⟨h₃, h₄, view, rfl, hview, hend⟩ := answered_andThen.1 hrest
    obtain ⟨rfl, -⟩ := answered_pure.1 hview
    obtain ⟨rfl, -⟩ := answered_pure.1 hend
    rw [if_neg huse]
    exact ⟨rfl, rfl⟩

/-- The first of the calls that take a facade down drops its trigger. -/
theorem downCalls_eq (im : Importer) (connector : String) (table : Identifier) :
    ∃ s, dropTriggerStatement im.settings.schema table = .ok s ∧
      im.downCalls connector table = ⟨connector, s⟩ :: im.downView connector table := by
  refine ⟨_, dropTriggerStatement_eq _ _, ?_⟩
  unfold downCalls
  rw [dropTriggerStatement_eq]
  rfl

theorem does_downView (im : Importer) (connector : String) (table : Identifier) :
    Does [.dropView] (im.downView connector table) := by
  unfold downView
  split
  · cases hs : dropViewStatement im.settings.schema table with
    | error e => exact does_nil _
    | ok s => exact does_singleton (List.mem_singleton_self _) (verb_dropView hs)
  · exact does_nil _

theorem does_downCalls (im : Importer) (c : String) (t : Identifier) :
    Does [.dropTrigger, .dropView] (im.downCalls c t) := by
  obtain ⟨s, hs, hdown⟩ := downCalls_eq im c t
  rw [hdown]
  have htrigger : Does [.dropTrigger, .dropView] [⟨c, s⟩] :=
    does_singleton List.mem_cons_self (verb_dropTrigger hs)
  exact htrigger.append ((does_downView im c t).mono (by decide))

/-- Building statements together sends those that are built, in order. -/
theorem does_buildStatements {connector : String} {schema table : Identifier}
    (kinds : List Index.Kind) :
    Does [.createIndex]
      ((buildStatements (buildsOn schema table kinds)).map fun s => ⟨connector, s⟩) := by
  induction kinds with
  | nil => exact does_nil _
  | cons k kinds ih =>
    unfold buildsOn at ih ⊢
    cases hs : k.statement schema table with
    | error e =>
      rw [List.map_cons, hs, buildStatements]
      exact ih
    | ok s =>
      rw [List.map_cons, hs, buildStatements, List.map_cons]
      exact (does_singleton (List.mem_singleton_self _) (verb_createIndex hs)).append ih

/-- A rebuild creates indices. -/
theorem rebuild_calls {connector : String} {schema base : Identifier} {layout : Index.Layout}
    {segments : List Index.Segment} {h : History} {report : Report}
    (hp : Answered (rebuild connector schema base layout segments) h report) :
    ∃ calls, Sends h calls ∧ Does [.createIndex] calls := by
  induction segments generalizing h report with
  | nil =>
    obtain ⟨rfl, -⟩ := answered_pure.1 hp
    exact ⟨[], ⟨rfl, rfl⟩, does_nil _⟩
  | cons segment segments ih =>
    obtain ⟨h₁, h₂, first, rfl, hfirst, hrest⟩ := answered_andThen.1 hp
    obtain ⟨h₃, h₄, rest, rfl, htail, hend⟩ := answered_andThen.1 hrest
    obtain ⟨rfl, -⟩ := answered_pure.1 hend
    obtain ⟨calls, hsends, hdoes⟩ := ih htail
    rw [List.append_nil]
    unfold rebuildSegment at hfirst
    split at hfirst
    · obtain ⟨rfl, -⟩ := answered_pure.1 hfirst
      exact ⟨calls, hsends, hdoes⟩
    · next table htable =>
      obtain ⟨h₅, h₆, results, rfl, hbuilds, hreport⟩ := answered_andThen.1 hfirst
      obtain ⟨rfl, -⟩ := answered_pure.1 hreport
      obtain rfl := answered_query.1 hbuilds
      have hbuilt : Sends
          [⟨.executeAll connector (buildStatements (buildsOn schema table (segment.plan layout))),
            results⟩]
          ((buildStatements (buildsOn schema table (segment.plan layout))).map fun s =>
            ⟨connector, s⟩) :=
        ⟨List.append_nil _, rfl⟩
      rw [List.append_nil]
      exact ⟨_, hbuilt.append hsends, (does_buildStatements _).append hdoes⟩

/-- Listing indices touches nothing but the list, which keeps what it has and gets all of them. -/
theorem addIndices_eq (built : List String) (job : ImportJob) :
    ∃ entries, built.foldl ImportJob.addIndex job = { job with indexEntries := entries } ∧
      (∀ e ∈ job.indexEntries, e ∈ entries) ∧ ∀ e ∈ built, e ∈ entries := by
  refine ⟨_, ImportJob.foldl_addIndex built job, fun _ he => List.mem_append_left _ he,
    fun e he => ?_⟩
  by_cases hlisted : e ∈ job.indexEntries
  · exact List.mem_append_left _ hlisted
  · refine List.mem_append_right _ (List.mem_eraseDups.2 (List.mem_filter.2 ⟨he, ?_⟩))
    simpa using hlisted

theorem afterRebuild_kept (job : ImportJob) (report : Report) :
    Kept job (afterRebuild job report) ∧
      (afterRebuild job report).spaceVersion = job.spaceVersion ∧
      (afterRebuild job report).uploads = job.uploads := by
  obtain ⟨entries, hentries, -⟩ := addIndices_eq report.built job
  unfold afterRebuild
  rw [hentries]
  split <;> exact ⟨rfl, rfl, rfl⟩

/-- How a finalization goes: the target is not found, or the indices are built again and the facade
is taken down, and where that left nothing standing the table is marked for maintenance. -/
inductive Finalized (im : Importer) (job : ImportJob) : History → Outcome → Prop where
  | lost {f : Failure} {h : History}
      (htarget : Answered (target .finalization job).run h (.error f)) :
      Finalized im job h (job, .error f)
  | standing {c : String} {t : Identifier} {report : Report} {failures : List Failure}
      {h₁ h₂ h₃ : History} (htarget : Answered (target .finalization job).run h₁ (.ok (c, t)))
      (hrebuild : Answered
        (rebuild c im.settings.schema t im.settings.layout im.settings.segments) h₂ report)
      (hdown : Answered (im.tearDown c t) h₃ failures) (hfailures : failures ≠ []) :
      Finalized im job (h₁ ++ (h₂ ++ h₃)) (afterRebuild job report,
        .error (.tableCleanupFailed (String.intercalate "; " (failures.map (·.message)))))
  | down {c : String} {t : Identifier} {report : Report} {s : Statement}
      {a : Except Database.Error Unit} {h₁ h₂ h₃ : History}
      (htarget : Answered (target .finalization job).run h₁ (.ok (c, t)))
      (hrebuild : Answered
        (rebuild c im.settings.schema t im.settings.layout im.settings.segments) h₂ report)
      (hdown : Answered (im.tearDown c t) h₃ [])
      (hmark : maintenanceStatement im.settings.statusSchema im.settings.statusTable t
        im.settings.schema = .ok s) :
      Finalized im job (h₁ ++ (h₂ ++ (h₃ ++ [⟨.execute c s, a⟩]))) (afterRebuild job report, .ok ())

theorem finalized_of_answered {job : ImportJob} {h : History} {o : Outcome}
    (hp : Answered (im.finalize job) h o) : Finalized im job h o := by
  unfold finalize at hp
  obtain ⟨h₁, h₂, found, rfl, htarget, hrest⟩ := answered_andThen.1 hp
  cases found with
  | error f =>
    obtain ⟨rfl, rfl⟩ := answered_pure.1 hrest
    rw [List.append_nil]
    exact .lost htarget
  | ok found =>
    obtain ⟨c, t⟩ := found
    obtain ⟨h₃, h₄, report, rfl, hrebuild, hafter⟩ := answered_andThen.1 hrest
    obtain ⟨h₅, h₆, failures, rfl, hdown, hend⟩ := answered_andThen.1 hafter
    dsimp only at hend
    split at hend
    · next hfailures =>
      obtain ⟨rfl, rfl⟩ := answered_pure.1 hend
      rw [List.append_nil]
      exact .standing htarget hrebuild hdown (by simpa using hfailures)
    · next hfailures =>
      obtain rfl : failures = [] := by simpa using hfailures
      -- the mark can always be built, and what it is answered does not matter
      rw [maintenanceStatement_eq] at hend
      obtain ⟨h₇, h₈, a, rfl, hmark, hdone⟩ := answered_andThen.1 hend
      obtain rfl := answered_query.1 hmark
      obtain ⟨rfl, rfl⟩ := answered_pure.1 hdone
      exact .down htarget hrebuild hdown (maintenanceStatement_eq ..)

/-- A finalization that finds its target builds indices, takes the facade down, and then may mark
the table. -/
theorem finalize_cases {job : ImportJob} {h : History} {o : Outcome}
    (hp : Answered (im.finalize job) h o) :
    (∃ f, o = (job, .error f) ∧ Answered (target .finalization job).run h (.error f)) ∨
      ∃ c t h₁ h₂ builds marks, h = h₁ ++ h₂ ∧
        Answered (target .finalization job).run h₁ (.ok (c, t)) ∧
        Sends h₂ (builds ++ (im.downCalls c t ++ marks)) ∧ Does [.createIndex] builds ∧
        Does [.markMaintenance] marks ∧ Kept job o.1 ∧
        o.1.spaceVersion = job.spaceVersion ∧ o.1.uploads = job.uploads := by
  cases finalized_of_answered hp with
  | @lost f _ htarget => exact .inl ⟨f, rfl, htarget⟩
  | @standing c t report failures h₁ h₂ h₃ htarget hrebuild hdown =>
    obtain ⟨builds, hbuilds, hcreate⟩ := rebuild_calls hrebuild
    refine .inr ⟨c, t, h₁, _, builds, [], rfl, htarget, ?_, hcreate, does_nil _,
      afterRebuild_kept job report⟩
    rw [List.append_nil]
    exact hbuilds.append (tearDown_calls hdown)
  | @down c t report s a h₁ h₂ h₃ htarget hrebuild hdown hmark =>
    obtain ⟨builds, hbuilds, hcreate⟩ := rebuild_calls hrebuild
    have hmarks : Sends [⟨.execute c s, a⟩] [⟨c, s⟩] := ⟨rfl, rfl⟩
    exact .inr ⟨c, t, h₁, _, builds, [⟨c, s⟩], rfl, htarget,
      hbuilds.append ((tearDown_calls hdown).append hmarks), hcreate,
      does_singleton (List.mem_singleton_self _) (verb_maintenance hmark),
      afterRebuild_kept job report⟩

/-- A finalization that fails does not count as found before a change. -/
theorem finalize_failure {job job' : ImportJob} {h : History} {f : Failure}
    (hp : Answered (im.finalize job) h (job', .error f)) : f.isPrecondition = false := by
  cases finalized_of_answered hp with
  | lost htarget => exact target_failure (by decide) htarget
  | standing => rfl

end Importer

end BulkImport.Import
