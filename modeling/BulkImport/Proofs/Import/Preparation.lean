import BulkImport.Proofs.Import.Validation
import BulkImport.Proofs.Job.Life

/-!
# What a preparation does

A preparation ends in one of the ways that `Prepared` lists (`prepare_cases`): it breaks off before
the claim of the table, at the claim or right after it, or the table is claimed and the facade is
installed.  An installation drops the indices that there are and then puts the facade up, and none
of its failures counts as found before the table was changed (`install_calls`).
-/

namespace BulkImport.Import

open BulkImport.Job BulkImport.Sql BulkImport.Table BulkImport.Program

namespace Importer

variable {im : Importer}

/-- What an import puts up in front of a table: nothing, the trigger, or the trigger and then the
view where loads go through one. -/
inductive Raised (im : Importer) (connector : String) (table : Identifier) : List Call → Prop where
  | nothing : Raised im connector table []
  | trigger {stamp : RowStamp} {s : Statement}
      (htrigger : writeTriggerStatement im.settings.schema table stamp = .ok s) :
      Raised im connector table [⟨connector, s⟩]
  | facade {stamp : RowStamp} {s s' : Statement}
      (htrigger : writeTriggerStatement im.settings.schema table stamp = .ok s)
      (huse : im.settings.useViewFacade = true)
      (hview : createViewStatement im.settings.schema table = .ok s') :
      Raised im connector table [⟨connector, s⟩, ⟨connector, s'⟩]

theorem Raised.does {c : String} {t : Identifier} {raised : List Call} (h : Raised im c t raised) :
    Does [.createTrigger, .createView] raised := by
  cases h with
  | nothing => exact does_nil _
  | trigger htrigger => exact does_singleton (by decide) (verb_writeTrigger htrigger)
  | @facade stamp s s' htrigger _ hview =>
    have hcreated : Does [.createTrigger, .createView] [⟨c, s⟩] :=
      does_singleton (by decide) (verb_writeTrigger htrigger)
    exact hcreated.append (does_singleton (by decide) (verb_createView hview))

theorem not_isPrecondition_of_database (e : Database.Error) :
    (Failure.ofDatabase .preparation e).isPrecondition = false :=
  isPrecondition_ofDatabase (by decide) e

/-- A statement of the preparation that fails does not count as found before a change. -/
theorem executeBuilt_failure {connector : String} {x : Except BuildError Statement} {h : History}
    {f : Failure} (hp : Answered (executeBuilt .preparation connector x).run h (.error f)) :
    f.isPrecondition = false := by
  rcases executeBuilt_cases hp with ⟨e, -, -, hr⟩ | ⟨s, a, -, -, hr⟩
  · cases hr
    rfl
  · cases a with
    | ok u => cases hr
    | error e =>
      cases hr
      exact not_isPrecondition_of_database e

theorem executeBuilt_sends {stage : Stage} {connector : String}
    {x : Except BuildError Statement} {h : History} {r : Except Failure Unit}
    (hp : Answered (executeBuilt stage connector x).run h r) :
    (Sends h [] ∧ ∃ f, r = .error f) ∨ ∃ s, x = .ok s ∧ Sends h [⟨connector, s⟩] := by
  rcases executeBuilt_cases hp with ⟨e, -, rfl, rfl⟩ | ⟨s, a, hs, rfl, -⟩
  · exact .inl ⟨⟨rfl, rfl⟩, _, rfl⟩
  · exact .inr ⟨s, hs, rfl, rfl⟩

/-- The view is asked for once, and its name is there then. -/
theorem createView_sends {connector : String} {schema table : Identifier} {h : History}
    {r : Except Failure Identifier} (hp : Answered (createView connector schema table).run h r) :
    (Sends h [] ∨ ∃ s, createViewStatement schema table = .ok s ∧ Sends h [⟨connector, s⟩]) ∧
      ∀ f, r = .error f → f.isPrecondition = false := by
  unfold createView at hp
  rcases answered_attempt.1 hp with ⟨f, hexecute, rfl⟩ | ⟨h₁, h₂, u, rfl, hexecute, hend⟩
  · refine ⟨(executeBuilt_sends hexecute).imp_left And.left, fun f' hf => ?_⟩
    cases hf
    exact executeBuilt_failure hexecute
  · obtain ⟨rfl, rfl⟩ := answered_build.1 hend
    rw [List.append_nil]
    refine ⟨(executeBuilt_sends hexecute).imp_left And.left, fun f hf => ?_⟩
    obtain ⟨e, -, rfl⟩ := mapError_eq_error_iff.1 hf
    rfl

/-- The part of an installation that puts the facade up. -/
theorem raise_calls {stamp : RowStamp} {connector : String} {table : Identifier} {h : History}
    {r : Except Failure Unit}
    (hp : Answered (do
      createTrigger connector im.settings.schema table stamp
      if im.settings.useViewFacade then
        let _ ← createView connector im.settings.schema table : Attempt Unit).run h r) :
    (∃ calls, Sends h calls ∧ Raised im connector table calls) ∧
      ∀ f, r = .error f → f.isPrecondition = false := by
  rcases answered_attempt.1 hp with ⟨f, htrigger, rfl⟩ | ⟨h₁, h₂, u, rfl, htrigger, hrest⟩
  · refine ⟨?_, fun f' hf => ?_⟩
    · rcases executeBuilt_sends htrigger with ⟨hs, -⟩ | ⟨s, hs, hsends⟩
      · exact ⟨[], hs, .nothing⟩
      · exact ⟨_, hsends, .trigger hs⟩
    · cases hf
      exact executeBuilt_failure htrigger
  rcases executeBuilt_sends htrigger with ⟨-, f, hf⟩ | ⟨s, hs, hsends⟩
  · cases hf
  split at hrest
  · next huse =>
    -- the name of the view is not used, so that nothing is asked after it
    have hview : ∃ h' r', Answered (createView connector im.settings.schema table).run h' r' ∧
        h₂ = h' ∧ ∀ f, r = .error f → r' = .error f := by
      rcases answered_attempt.1 hrest with ⟨f, hview, rfl⟩ | ⟨h₃, h₄, view, rfl, hview, hend⟩
      · exact ⟨_, _, hview, rfl, fun f' hf => by cases hf; rfl⟩
      · obtain ⟨rfl, rfl⟩ := answered_return.1 hend
        exact ⟨_, _, hview, List.append_nil _, fun f hf => by cases hf⟩
    obtain ⟨h', r', hview, rfl, hr⟩ := hview
    obtain ⟨hcalls, hfailure⟩ := createView_sends hview
    refine ⟨?_, fun f hf => hfailure f (hr f hf)⟩
    rcases hcalls with hcalls | ⟨s', hs', hcalls⟩
    · exact ⟨_, hsends.append hcalls, .trigger hs⟩
    · exact ⟨_, hsends.append hcalls, .facade hs huse hs'⟩
  · obtain ⟨rfl, rfl⟩ := answered_return.1 hrest
    rw [List.append_nil]
    exact ⟨⟨_, hsends, .trigger hs⟩, fun f hf => by cases hf⟩

/-- An installation drops the indices that there are, and then puts the facade up. -/
theorem install_calls {job : ImportJob} {connector : String} {table : Identifier} {v : Int64}
    {h : History} {r : Except Failure Unit}
    (hp : Answered (im.install job connector table v).run h r) :
    (∃ calls raised, Sends h (calls ++ raised) ∧ Does [.listIndices, .dropIndices] calls ∧
      Raised im connector table raised) ∧ ∀ f, r = .error f → f.isPrecondition = false := by
  have hlist : Does [.listIndices, .dropIndices]
      [⟨connector, listIndicesStatement im.settings.schema table⟩] :=
    does_singleton (List.mem_cons_self) (verb_listIndices _ _)
  unfold install at hp
  rcases answered_attempt.1 hp with ⟨f, hfetch, rfl⟩ | ⟨h₁, h₂, indices, rfl, hfetch, hrest⟩
  · obtain ⟨e, hq, rfl⟩ := answered_database_error.1 hfetch
    obtain rfl := answered_query.1 hq
    refine ⟨⟨_, [], ⟨rfl, rfl⟩, hlist, .nothing⟩, fun f' hf => ?_⟩
    cases hf
    exact not_isPrecondition_of_database e
  obtain rfl := answered_query.1 (answered_database_ok.1 hfetch)
  have hlisted : Sends
      [⟨.fetchTexts connector (listIndicesStatement im.settings.schema table), .ok indices⟩]
      [⟨connector, listIndicesStatement im.settings.schema table⟩] := ⟨rfl, rfl⟩
  -- what follows the listing depends on whether it gives any index
  dsimp only at hrest
  split at hrest
  · next hindices =>
    have hnames : indices ≠ [] := by
      rintro rfl
      cases hindices
    have hdropped : ∀ {s}, dropIndicesStatement im.settings.schema indices = .ok s →
        Does [.listIndices, .dropIndices] [⟨connector, s⟩] :=
      fun hs => does_singleton (by decide) (verb_dropIndices hnames hs)
    rcases answered_attempt.1 hrest with ⟨f, hdrop, rfl⟩ | ⟨h₃, h₄, u, rfl, hdrop, hraise⟩
    · refine ⟨?_, fun f' hf => ?_⟩
      · rcases executeBuilt_sends hdrop with ⟨hs, -⟩ | ⟨s, hs, hsends⟩
        · exact ⟨_, [], hlisted.append hs, hlist, .nothing⟩
        · refine ⟨_, [], ?_, hlist.append (hdropped hs), .nothing⟩
          rw [List.append_nil]
          exact hlisted.append hsends
      · cases hf
        exact executeBuilt_failure hdrop
    · obtain ⟨⟨raised, hsends', hraised⟩, hfailure⟩ := raise_calls hraise
      refine ⟨?_, hfailure⟩
      rcases executeBuilt_sends hdrop with ⟨-, f, hf⟩ | ⟨s, hs, hsends⟩
      · cases hf
      · refine ⟨_, raised, ?_, hlist.append (hdropped hs), hraised⟩
        rw [List.append_assoc]
        exact hlisted.append (hsends.append hsends')
  · obtain ⟨⟨raised, hsends, hraised⟩, hfailure⟩ := raise_calls hrest
    exact ⟨⟨_, raised, hlisted.append hsends, hlist, hraised⟩, hfailure⟩

theorem does_install {job : ImportJob} {connector : String} {table : Identifier} {v : Int64}
    {h : History} {r : Except Failure Unit}
    (hp : Answered (im.install job connector table v).run h r) :
    Does [.listIndices, .dropIndices, .createTrigger, .createView] (sent h) := by
  obtain ⟨⟨calls, raised, hsends, hdoes, hraised⟩, -⟩ := install_calls hp
  rw [hsends.sent]
  exact (hdoes.mono (by decide)).append (hraised.does.mono (by decide))

/-- How a preparation goes: its target is not found, the claim fails, gives another version or one
that cannot be kept on the job, or the table is claimed and the facade is installed. -/
inductive Prepared (im : Importer) (job : ImportJob) : History → Outcome → Prop where
  | lost {h : History} {f : Failure}
      (htarget : Answered (target .preparation job).run h (.error f)) :
      Prepared im job h (job, .error f)
  | unclaimable {c : String} {t : Identifier} {f : Failure} (hc : job.targetConnector = some c)
      (ht : job.targetTable = some t.text) (hf : claimStatement im.settings.schema t = .error f) :
      Prepared im job [⟨.connect c, .ok ()⟩] (job, .error f)
  | refused {c : String} {t : Identifier} {s : Statement} {e : Database.Error}
      (hc : job.targetConnector = some c) (ht : job.targetTable = some t.text)
      (hs : claimStatement im.settings.schema t = .ok s) :
      Prepared im job [⟨.connect c, .ok ()⟩, ⟨.fetchInteger c s, .error e⟩]
        (job, .error (.ofDatabase .preparation e))
  | notFresh {c : String} {t : Identifier} {s : Statement} {v : Int64}
      (hc : job.targetConnector = some c) (ht : job.targetTable = some t.text)
      (hs : claimStatement im.settings.schema t = .ok s) (hv : v ≠ freshVersion) :
      Prepared im job [⟨.connect c, .ok ()⟩, ⟨.fetchInteger c s, .ok v⟩]
        ((job.setSpaceVersion v).toOption.getD job, .error (.sequenceNotZero v))
  | versionKept {c : String} {t : Identifier} {s : Statement} {e : Job.ChangeError}
      (hc : job.targetConnector = some c) (ht : job.targetTable = some t.text)
      (hs : claimStatement im.settings.schema t = .ok s)
      (he : job.setSpaceVersion freshVersion = .error e) :
      Prepared im job [⟨.connect c, .ok ()⟩, ⟨.fetchInteger c s, .ok freshVersion⟩]
        (job, .error (.unexpected .preparation e.message))
  | installed {c : String} {t : Identifier} {s : Statement} {job' : ImportJob} {h : History}
      {r : Except Failure Unit} (hc : job.targetConnector = some c)
      (ht : job.targetTable = some t.text) (hs : claimStatement im.settings.schema t = .ok s)
      (hjob : job.setSpaceVersion freshVersion = .ok job')
      (hp : Answered (im.install job' c t freshVersion).run h r) :
      Prepared im job (⟨.connect c, .ok ()⟩ :: ⟨.fetchInteger c s, .ok freshVersion⟩ :: h)
        (job', r)

/-- A claim that cannot be built fails during the preparation. -/
theorem claimStatement_failure {schema table : Identifier} {f : Failure}
    (h : claimStatement schema table = .error f) : ∃ m, f = .unexpected .preparation m := by
  obtain ⟨e, -, rfl⟩ := mapError_eq_error_iff.1 h
  exact ⟨e.message, rfl⟩

theorem afterClaim_refused (job : ImportJob) (e : Database.Error) :
    afterClaim job (.error (.ofDatabase .preparation e)) =
      (job, .error (.ofDatabase .preparation e)) := by
  cases e <;> rfl

theorem prepare_cases {job : ImportJob} {h : History} {o : Outcome}
    (hp : Answered (im.prepare job) h o) : Prepared im job h o := by
  unfold prepare at hp
  obtain ⟨h₁, h₂, found, rfl, htarget, hrest⟩ := answered_andThen.1 hp
  rcases target_cases htarget with ⟨f, rfl, hs⟩ | ⟨c, t, rfl, hc, ht, rfl⟩
  · obtain ⟨rfl, rfl⟩ := answered_pure.1 hrest
    rw [List.append_nil]
    exact .lost htarget
  obtain ⟨h₃, h₄, claimed, rfl, hclaim, hend⟩ := answered_andThen.1 hrest
  rcases claim_cases hclaim with ⟨f, hf, rfl, rfl⟩ | ⟨s, a, hs, rfl, hclaimed⟩
  · obtain ⟨m, rfl⟩ := claimStatement_failure hf
    obtain ⟨rfl, rfl⟩ := answered_pure.1 hend
    exact .unclaimable hc ht hf
  rcases hclaimed with ⟨e, rfl, rfl⟩ | ⟨rfl, rfl⟩ | ⟨v, hv, rfl, rfl⟩
  · rw [afterClaim_refused] at hend
    obtain ⟨rfl, rfl⟩ := answered_pure.1 hend
    exact .refused hc ht hs
  · cases hset : job.setSpaceVersion freshVersion with
    | error e =>
      rw [afterClaim, hset] at hend
      obtain ⟨rfl, rfl⟩ := answered_pure.1 hend
      exact .versionKept hc ht hs hset
    | ok job' =>
      rw [afterClaim, hset] at hend
      obtain ⟨h₅, h₆, r, rfl, hinstall, hend⟩ := answered_andThen.1 hend
      obtain ⟨rfl, rfl⟩ := answered_pure.1 hend
      rw [List.append_nil]
      exact .installed hc ht hs hset hinstall
  · obtain ⟨rfl, rfl⟩ := answered_pure.1 hend
    exact .notFresh hc ht hs hv

/-- A preparation changes nothing of a job but its space version. -/
theorem prepared_job {job : ImportJob} {h : History} {o : Outcome} (hp : Prepared im job h o) :
    ∃ version, o.1 = { job with spaceVersion := version } := by
  cases hp with
  | lost | unclaimable | refused | versionKept => exact ⟨_, rfl⟩
  | notFresh => exact ⟨_, ImportJob.setSpaceVersion_attempted _ _⟩
  | installed _ _ _ hversion => exact ⟨_, (ImportJob.eq_of_setSpaceVersion hversion).2⟩

end Importer

end BulkImport.Import
