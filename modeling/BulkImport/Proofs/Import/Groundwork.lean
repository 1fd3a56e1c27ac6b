import BulkImport.Proofs.Import.Entry
import BulkImport.Proofs.Import.Success
import BulkImport.Proofs.Table.Batch

/-!
# What stands when rows are loaded

A preparation that is passed has claimed the table, dropped every index that was listed, and put the
facade up, with every one of its statements carried out (`Passage.prepared`).  Loads belong to the
execution, which only comes after such a preparation.  So whenever a load is sent, all this was done
before and none of it was undone since, and no index was built yet (`loads_behind_facade`).
-/

namespace BulkImport.Import

open BulkImport.Job BulkImport.Sql BulkImport.Table BulkImport.Program

namespace Importer

variable {im : Importer} {job job' result : ImportJob} {h : History} {c : String} {t : Identifier}

/-! ### An installation that succeeds -/

/-- Statements that are carried out one after the other. -/
def carried (connector : String) (ss : List Statement) : History :=
  ss.map fun s => ⟨.execute connector s, .ok ()⟩

/-- What drops indices of a schema: nothing where there are none, and else one batch. -/
inductive Clears (schema : Identifier) : List String → List Statement → Prop where
  | nothing : Clears schema [] []
  | batch {names : List String} (hnames : names ≠ []) :
      Clears schema names [⟨String.join (names.map (dropText schema)), []⟩]

/-- What puts the view in front of a table, where loads go through one. -/
inductive Fronts (im : Importer) (table : Identifier) : List Statement → Prop where
  | nothing (huse : im.settings.useViewFacade = false) : Fronts im table []
  | view {s : Statement} (huse : im.settings.useViewFacade = true)
      (hview : createViewStatement im.settings.schema table = .ok s) : Fronts im table [s]

/-- A facade is installed: the indices are listed and dropped, and the trigger and the view are put
up, with nothing refused. -/
inductive Installed (im : Importer) (connector : String) (table : Identifier) (stamp : RowStamp) :
    History → Prop where
  | intro {names : List String} {drops fronts : List Statement} {trigger : Statement}
      (hdrops : Clears im.settings.schema names drops)
      (htrigger : writeTriggerStatement im.settings.schema table stamp = .ok trigger)
      (hfronts : Fronts im table fronts) :
      Installed im connector table stamp
        (⟨.fetchTexts connector (listIndicesStatement im.settings.schema table), .ok names⟩ ::
          carried connector (drops ++ trigger :: fronts))

theorem carried_append (connector : String) (ss ss' : List Statement) :
    carried connector (ss ++ ss') = carried connector ss ++ carried connector ss' :=
  List.map_append

theorem executeBuilt_ok {stage : Stage} {x : Except BuildError Statement} {u : Unit}
    (hp : Answered (executeBuilt stage c x).run h (.ok u)) :
    ∃ s, x = .ok s ∧ h = carried c [s] := by
  rcases executeBuilt_cases hp with ⟨e, -, -, hr⟩ | ⟨s, a, hs, rfl, hr⟩
  · cases hr
  · cases a with
    | error e => cases hr
    | ok _ => exact ⟨s, hs, rfl⟩

/-- The part of an installation that puts the facade up. -/
theorem raise_ok {stamp : RowStamp}
    (hp : Answered (do
      createTrigger c im.settings.schema t stamp
      if im.settings.useViewFacade then
        let _ ← createView c im.settings.schema t : Attempt Unit).run h (.ok ())) :
    ∃ trigger fronts, writeTriggerStatement im.settings.schema t stamp = .ok trigger ∧
      Fronts im t fronts ∧ h = carried c (trigger :: fronts) := by
  obtain ⟨h₁, h₂, u, rfl, htrigger, hrest⟩ := succeeded_attempt hp
  obtain ⟨trigger, hs, rfl⟩ := executeBuilt_ok htrigger
  split at hrest
  · next huse =>
    obtain ⟨h₃, h₄, view, rfl, hview, hend⟩ := succeeded_attempt hrest
    obtain ⟨rfl, -⟩ := answered_return.1 hend
    unfold createView at hview
    obtain ⟨h₅, h₆, u, rfl, hcreate, hname⟩ := succeeded_attempt hview
    obtain ⟨s, hs', rfl⟩ := executeBuilt_ok hcreate
    obtain ⟨rfl, -⟩ := answered_build.1 hname
    exact ⟨trigger, [s], hs, .view huse hs', by simp [carried]⟩
  · next huse =>
    obtain ⟨rfl, -⟩ := answered_return.1 hrest
    exact ⟨trigger, [], hs, .nothing (by simpa using huse), by simp [carried]⟩

theorem install_ok {v : Int64} (hp : Answered (im.install job c t v).run h (.ok ())) :
    Installed im c t (im.stamp job v) h := by
  unfold install at hp
  obtain ⟨h₁, h₂, names, rfl, hfetch, hrest⟩ := succeeded_attempt hp
  obtain rfl := answered_query.1 (answered_database_ok.1 hfetch)
  -- what follows the listing depends on whether it gives any index
  dsimp only at hrest
  split at hrest
  · next hsome =>
    obtain ⟨h₃, h₄, u, rfl, hdrop, hraise⟩ := succeeded_attempt hrest
    obtain ⟨s, hs, rfl⟩ := executeBuilt_ok hdrop
    obtain ⟨trigger, fronts, htrigger, hfronts, rfl⟩ := raise_ok hraise
    obtain rfl := eq_of_dropIndicesStatement hs
    rw [← carried_append]
    exact .intro (.batch (by simpa using hsome)) htrigger hfronts
  · next hnone =>
    obtain ⟨trigger, fronts, htrigger, hfronts, rfl⟩ := raise_ok hrest
    obtain rfl : names = [] := by simpa using hnone
    exact .intro .nothing htrigger hfronts

/-! ### The phases before the execution -/

/-- A preparation that is passed has claimed the table and installed the facade, and the job has the
first version. -/
theorem Passage.prepared (hp : Passage im .prepare job h job') :
    ∃ c t s installing before after, h = before ++
        ⟨.fetchInteger c s, .ok freshVersion⟩ :: (installing ++ after) ∧
      Aims job c t ∧ claimStatement im.settings.schema t = .ok s ∧
      Installed im c t (im.stamp job freshVersion) installing ∧ sent before = [] ∧
      sent after = [] ∧
      job' = { job with spaceVersion := some freshVersion, status := .prepared } := by
  obtain @⟨job₂, job₃, hw, hs, kept, kept', hwork, hstamp⟩ := hp
  obtain ⟨rfl, rfl⟩ := answered_pure.1 hstamp
  cases prepare_cases hwork with
  | @installed c t s _ hi _ hc ht hclaim hset hinstall =>
    obtain ⟨-, rfl⟩ := ImportJob.eq_of_setSpaceVersion hset
    exact ⟨c, t, s, hi, [⟨.record { job with status := .preparing }, kept⟩, ⟨.connect c, .ok ()⟩],
      _, rfl, ⟨hc, ht⟩, hclaim, install_ok hinstall, rfl, rfl, rfl⟩

/-- What comes before an execution puts the first space version on the job, and leaves uploads under
their own names where they are, with at least one that is valid. -/
theorem Passes.claimed (hp : Passes im Phase.execute.earlier job h job') :
    (∃ uploads, job' = { job with
      uploads := uploads, spaceVersion := some freshVersion, status := .prepared }) ∧
      (WellKeyed job → WellKeyed job') ∧ job'.validUploads ≠ [] := by
  obtain _ | @⟨_, _, _, job₁, _, hv, _, hvalidate, hrest⟩ := hp
  obtain _ | ⟨hprepare, hnone⟩ := hrest
  cases hnone
  obtain ⟨uploads, hvalidated⟩ := hvalidate.validated
  obtain ⟨c, t, s, installing, before, after, -, -, -, -, -, -, hprepared⟩ := hprepare.prepared
  have huploads : (WellKeyed job → WellKeyed job₁) ∧ job₁.validUploads ≠ [] := by
    obtain ⟨hwork, hstamp⟩ := hvalidate
    obtain ⟨-, rfl⟩ := answered_pure.1 hstamp
    have hfound := validate_uploads hwork
    exact hfound
  refine ⟨⟨uploads, by rw [hprepared, hvalidated]⟩, ?_⟩
  rw [hprepared]
  exact huploads

/-! ### The loads -/

/-- Loads go through the view, under its name, or into the table itself. -/
theorem loadInto_cases {relation : Identifier} {into : LoadTarget}
    (h : im.loadInto t = .ok (relation, into)) :
    (im.settings.useViewFacade = true ∧ viewName t = .ok relation ∧ into = .view) ∨
      (im.settings.useViewFacade = false ∧ relation = t ∧ into = .table) := by
  unfold loadInto at h
  split at h
  · next huse =>
    obtain ⟨view, hview, hmade⟩ := map_eq_ok_iff.1 h
    cases hmade
    exact .inl ⟨huse, mapError_eq_ok_iff.1 hview, rfl⟩
  · next huse =>
    cases h
    exact .inr ⟨by simpa using huse, rfl, rfl⟩

/-- Every statement of some loads loads an upload into the relation that loads go to. -/
theorem Loads.into {keys : List String} {o : ImportJob × Except Failure Nat} {call : Call}
    (hl : Loads im keys job h o) (hcall : call ∈ sent h) :
    ∃ t relation into u, Aims job call.connector t ∧ im.loadInto t = .ok (relation, into) ∧
      loadStatement im.settings.schema relation job.csvFormat into (.ofUpload u) =
        .ok call.statement := by
  have hone : ∀ {job : ImportJob} {u : Upload} {h : History} {r : Except Failure String},
      Answered (im.load job u).run h r → call ∈ sent h →
      ∃ t relation into u, Aims job call.connector t ∧ im.loadInto t = .ok (relation, into) ∧
        loadStatement im.settings.schema relation job.csvFormat into (.ofUpload u) =
          .ok call.statement := by
    intro job u h r hload hcall
    rcases load_cases hload with
      ⟨f, -, hs, -⟩ | ⟨c, t, relation, into, s, a, hc, ht, hinto, hs, rfl, -⟩
    · rw [hs.sent] at hcall
      cases hcall
    · obtain rfl : call = ⟨c, s⟩ := by simpa [Question.calls] using hcall
      exact ⟨t, relation, into, u, ⟨hc, ht⟩, hinto, hs⟩
  induction hl with
  | finished => cases hcall
  | absent _ _ ih => exact ih hcall
  | disconnected _ hload => exact hone hload hcall
  | failed _ hload _ _ ih | imported _ hload _ ih =>
    rw [sent_append] at hcall
    rcases List.mem_append.1 hcall with hcall | hcall
    · exact hone hload hcall
    · obtain ⟨t, relation, into, u, haims, hinto, hs⟩ := ih hcall
      exact ⟨t, relation, into, u, ⟨haims.connector, haims.table⟩, hinto, hs⟩

/-- An exchange that sends a statement which does this. -/
def Sending (v : Verb) (e : Exchange Question Answer) : Prop :=
  ∃ call ∈ e.question.calls, call.verb? = some v

theorem Does.not_sending {verbs : List Verb} {v : Verb} (hd : Does verbs (sent h))
    (hv : v ∉ verbs) : ∀ e ∈ h, ¬ Sending v e := by
  rintro e he ⟨call, hcall, hverb⟩
  exact hd.verb_ne hv call (mem_sent he hcall) hverb

/-- A table is ready for loads: after the look for it, it was claimed for the first version and its
facade was installed, and there were only loads since. -/
inductive Readied (im : Importer) (job : ImportJob) (connector : String) (table : Identifier) :
    History → Prop where
  | intro {earlier installing later : History} {s : Statement}
      (hearlier : Does [.probe] (sent earlier))
      (hclaim : claimStatement im.settings.schema table = .ok s)
      (hinstalling : Installed im connector table (im.stamp job freshVersion) installing)
      (hlater : Does [.load] (sent later)) :
      Readied im job connector table
        (earlier ++ ⟨.fetchInteger connector s, .ok freshVersion⟩ :: (installing ++ later))

/-- The phases before an execution make the table of the job ready. -/
theorem Passes.readied {job₁ : ImportJob} (hp : Passes im Phase.execute.earlier job h job₁) :
    ∃ c t, Aims job c t ∧
      ∀ later, Does [.load] (sent later) → Readied im job c t (h ++ later) := by
  obtain _ | @⟨_, _, _, job', _, hv, _, hvalidate, hrest⟩ := hp
  obtain _ | ⟨hprepare, hnone⟩ := hrest
  cases hnone
  obtain ⟨uploads, hvalidated⟩ := hvalidate.validated
  obtain ⟨c, t, s, installing, quiet, quiet', rfl, haims, hclaim, hinstalling, hquiet, hquiet',
    -⟩ := hprepare.prepared
  have hstamp : im.stamp job' freshVersion = im.stamp job freshVersion := by
    rw [hvalidated]
    rfl
  rw [hstamp] at hinstalling
  have hearlier : Does [.probe] (sent (hv ++ quiet)) := by
    rw [sent_append, hquiet, List.append_nil]
    exact hvalidate.does
  refine ⟨c, t, haims.sameTarget hvalidate.sameTarget, fun later hlater => ?_⟩
  have hafter : Does [.load] (sent (quiet' ++ later)) := by
    rwa [sent_append, hquiet', List.nil_append]
  simpa using Readied.intro hearlier hclaim hinstalling hafter

/-- An import that is helped loads an upload, where uploads are filed under their own names. -/
theorem load_of_helpful (hready : Ready im job c t) (hkeyed : WellKeyed job)
    (hp : Answered (im.run job) h result) (hgood : ∀ e ∈ h, Helpful im.settings.schema [] e) :
    ∃ e ∈ h, Sending .load e := by
  obtain ⟨h₁, h₂, job', rfl, hpasses, -⟩ := reaches_finalize hready (by simp) hp hgood
  rw [show Phase.finalize.earlier = Phase.execute.earlier ++ [.execute] from rfl] at hpasses
  obtain ⟨h₃, h₄, job₁, rfl, hbefore, hlast⟩ := hpasses.split
  obtain _ | ⟨hexecute, hnone⟩ := hlast
  cases hnone
  obtain ⟨-, hkeyed₁, hsome⟩ := hbefore.claimed
  obtain ⟨job₀, job₂, job₃, hw, hs, e, e', rfl, -, -, hentered, hwork, -⟩ := hexecute.parts
  obtain ⟨job₄, failures, hl, -⟩ := answered_execute.1 hwork
  have huploads : job₀.uploads = job₁.uploads := by rw [hentered]
  have haims : Aims job₀ c t := by
    rw [hentered]
    exact hbefore.aims hready.aims _
  obtain ⟨u, hu⟩ := List.exists_mem_of_ne_nil _ hsome
  have hname : u.filename ∈ names job₁ := List.mem_map_of_mem hu
  obtain ⟨v, hv, -⟩ := valid_of_name (hkeyed₁ hkeyed) hname
  obtain ⟨-, hload⟩ := hl.succeeds haims (loadInto_ok hready.viewed) fun e he =>
    hgood e (by simp [he])
  obtain ⟨call, hcall, hverb⟩ := hload ⟨u.filename, by
    rwa [ImportJob.validUploads, huploads], by rw [huploads, hv]; simp⟩
  obtain ⟨e, he, hcall⟩ := List.mem_flatMap.1 hcall
  exact ⟨e, by simp [he], call, hcall, hverb⟩

/-- Whenever a load is sent, the table is ready for it, and no index was built and nothing of the
facade taken down before.  The load fills the view of the table with the columns of the view where
loads go through one, and else the table itself. -/
theorem loads_behind_facade {before after : History} {e : Exchange Question Answer} {call : Call}
    (hp : Answered (im.run job) (before ++ e :: after) result) (hcall : call ∈ e.question.calls)
    (hload : call.verb? = some .load) :
    ∃ t relation into u, Aims job call.connector t ∧
      Readied im job call.connector t before ∧
      Does [.probe, .claim, .listIndices, .dropIndices, .createTrigger, .createView, .load]
        (sent before) ∧
      loadStatement im.settings.schema relation job.csvFormat into (.ofUpload u) =
        .ok call.statement ∧
      ((im.settings.useViewFacade = true ∧ viewName t = .ok relation ∧ into = .view) ∨
        (im.settings.useViewFacade = false ∧ relation = t ∧ into = .table)) := by
  have hloading : Sending .load e := ⟨call, hcall, hload⟩
  cases hjob : job.status.isFinal with
  | true =>
    obtain ⟨hnone, -⟩ := run_of_final hjob hp
    cases before <;> cases hnone
  | false =>
    -- a run that loads comes to its execution
    rcases (progress_of_run hjob hp).divided .execute with hdoes | hdivision
    · exact absurd hloading (Does.not_sending hdoes (by decide) e (by simp))
    generalize hh : before ++ e :: after = h at hdivision
    obtain @⟨job₁, o, hb, hw, ha, kept, hbefore, hwork, hafter⟩ := hdivision
    have hentered : Does (Phase.execute.earlier.flatMap Phase.verbs)
        (sent (hb ++ [⟨.record { job₁ with status := Phase.execute.running }, kept⟩])) := by
      simpa [Question.calls] using hbefore.does
    obtain ⟨hw₁, hw₂, rfl, rfl, -⟩ := split_between (Does.not_sending hentered (by decide))
      (Does.not_sending hafter (by decide)) hloading (by simpa using hh.symm)
    -- the execution loads, before this load and with it
    have hloads := work_does hwork
    rw [sent_append] at hloads
    have hloaded : Does [.load] (sent hw₁) := fun c hc => hloads c (List.mem_append_left _ hc)
    obtain ⟨job₂, failures, hl, -⟩ := answered_execute.1 hwork
    obtain ⟨t, relation, into, u, haims, hinto, hs⟩ :=
      hl.into (mem_sent (List.mem_append_right _ List.mem_cons_self) hcall)
    obtain ⟨c, t', haims', hready⟩ := hbefore.readied
    obtain ⟨⟨uploads, hjob₁⟩, -⟩ := hbefore.claimed
    have haims₁ : Aims job₁ call.connector t := ⟨haims.connector, haims.table⟩
    obtain ⟨rfl, rfl⟩ := haims'.unique (haims₁.sameTarget hbefore.sameTarget)
    refine ⟨t, relation, into, u, haims', ?_, ?_, ?_, loadInto_cases hinto⟩
    · rw [List.append_assoc]
      exact hready _ (by simpa [Question.calls] using hloaded)
    · rw [sent_append]
      exact (hentered.mono (by decide)).append (hloaded.mono (by decide))
    · rw [← hs, hjob₁]

/-- The roads are loaded into a table that is ready for it. -/
theorem roads_loaded_behind_facade :
    ∃ before e after call t,
      ((viewImporter.run roadsJob).carryOut oblige).1 = before ++ e :: after ∧
      call ∈ e.question.calls ∧ call.verb? = some .load ∧ Aims roadsJob call.connector t ∧
      Readied viewImporter roadsJob call.connector t before := by
  have hp := answered_carryOut oblige (viewImporter.run roadsJob)
  obtain ⟨e, he, call, hcall, hload⟩ :=
    load_of_helpful (roads_ready rfl) roadsJob_wellKeyed hp (helpful_oblige _)
  obtain ⟨before, after, hplace⟩ := List.append_of_mem he
  rw [hplace] at hp
  obtain ⟨t, -, -, -, haims, hready, -⟩ := loads_behind_facade hp hcall hload
  exact ⟨before, e, after, call, t, hplace, hcall, hload, haims, hready⟩

end Importer

end BulkImport.Import
