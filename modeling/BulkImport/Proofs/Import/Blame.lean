import BulkImport.Proofs.Import.Judgment
import BulkImport.Proofs.Import.Passage
import BulkImport.Proofs.Import.Trail

/-!
# What a failed import is blamed on

Whatever goes wrong in a phase is blamed on the stage that the phase is, or on the connection to the
database (`blames`, `work_failsIn`).  As a run ends with the failure of the phase that it entered
last, the type of error on the job can be told from the statuses that the run recorded, and the type
and the description of the error tell whether the job was aborted (`failure_classified`).
-/

namespace BulkImport

open BulkImport.Job BulkImport.Sql BulkImport.Table BulkImport.Program
open BulkImport.ImportJob (failWith_eq)

/-- The failures that abort a job are those of a validation and a claim that comes too late. -/
theorem Job.Failure.isPrecondition_iff (f : Failure) :
    f.isPrecondition = true ↔
      f.errorType = .validationFailed ∨ f.errorDescription = .sequenceNotZero := by
  cases f with
  | unexpected stage m => cases stage <;> simp [Failure.isPrecondition, Failure.errorType,
      Failure.errorDescription, Stage.errorType]
  | _ => simp [Failure.isPrecondition, Failure.errorType, Failure.errorDescription]

namespace Import

/-- Attempts during a stage are blamed on it. -/
theorem blames (stage : Stage) :
    Judgment stage fun _ failure => ∀ f ∈ failure, FailsIn stage f := by
  have hanswer : ∀ {α : Type} (a : Except Database.Error α),
      ∀ f ∈ failure? (a.mapError (Failure.ofDatabase stage)), FailsIn stage f := by
    intro α a f hf
    cases a with
    | ok a => cases hf
    | error e =>
      cases hf
      exact failsIn_ofDatabase stage e
  exact
    { nothing := nofun
      append := fun _ hrest => hrest
      failed := fun hf f hf' => by cases hf'; exact hf
      connected := fun _ a => hanswer a
      executed := fun _ _ a => hanswer a
      counted := fun _ _ a => hanswer a
      listed := fun _ _ a => hanswer a }

namespace Importer

variable {im : Importer} {job job' result : ImportJob} {h : History} {f : Failure} {p : Phase}
  {ps : List Phase}

/-! ### The failures of a phase -/

/-- A phase that fails is blamed on the connection to the database or on the stage that it is. -/
theorem work_failsIn (hp : Answered (im.work p job) h (job', .error f)) : FailsIn p.stage f := by
  cases p with
  | validate =>
    rcases validate_ends hp with ⟨f', hcheck, ho⟩ | ⟨h₁, h₂, found, -, -, -, ho⟩
    · cases ho
      exact (blames _).checkTarget im job _ _ hcheck f rfl
    · have hempty := congrArg Prod.snd ho
      dsimp only at hempty
      split at hempty
      · cases hempty
        exact .inr rfl
      · cases hempty
  | prepare =>
    generalize ho : (job', Except.error f) = o at hp
    cases prepare_cases hp with
    | lost htarget =>
      cases ho
      exact (blames _).target job _ _ htarget f rfl
    | unclaimable _ _ hf =>
      cases ho
      obtain ⟨m, rfl⟩ := claimStatement_failure hf
      exact .inr rfl
    | refused =>
      cases ho
      exact failsIn_ofDatabase _ _
    | notFresh | versionKept =>
      cases ho
      exact .inr rfl
    | installed _ _ _ _ hinstall =>
      cases ho
      exact (blames _).install im _ _ _ _ _ _ hinstall f rfl
  | execute =>
    obtain ⟨job₁, failures, hl, ⟨f', rfl, ho⟩ | ⟨n, rfl, ho⟩⟩ := answered_execute.1 hp
    · cases ho
      -- only a lost connection breaks the loads off
      have hretry := hl.calls.2.2 f rfl
      cases f with
      | noConnection m => exact .inl rfl
      | _ => cases hretry
    · unfold loadVerdict at ho
      split at ho
      · cases ho
        exact .inr rfl
      · split at ho <;> cases ho
  | finalize =>
    generalize ho : (job', Except.error f) = o at hp
    cases finalized_of_answered hp with
    | lost htarget =>
      cases ho
      exact (blames _).target job _ _ htarget f rfl
    | standing =>
      cases ho
      exact .inr rfl
    | down => cases ho

/-! ### What passed phases leave on the job -/

/-- No phase describes on the job that its claim came too late. -/
theorem work_describes {r : Except Failure Unit} (hp : Answered (im.work p job) h (job', r))
    (hjob : job.errorDescription ≠ some .sequenceNotZero) :
    job'.errorDescription ≠ some .sequenceNotZero := by
  cases p with
  | validate =>
    obtain ⟨uploads, hvalidated⟩ := (validate_cases hp).2
    rw [show job' = { job with uploads := uploads } from hvalidated]
    exact hjob
  | prepare =>
    obtain ⟨version, hprepared⟩ := prepared_job (prepare_cases hp)
    rw [show job' = { job with spaceVersion := version } from hprepared]
    exact hjob
  | execute =>
    obtain ⟨job₁, failures, hl, ho⟩ := answered_execute.1 hp
    obtain ⟨uploads, hloaded⟩ : ∃ uploads, job₁ = { job with uploads := uploads } := hl.calls.2.1
    have hjob₁ : job₁.errorDescription ≠ some .sequenceNotZero := by rwa [hloaded]
    rcases ho with ⟨f, -, ho⟩ | ⟨n, -, ho⟩
    · rwa [(Prod.mk.inj ho).1]
    · unfold loadVerdict at ho
      split at ho
      · rwa [(Prod.mk.inj ho).1]
      · split at ho
        · rw [(Prod.mk.inj ho).1]
          simp
        · rwa [(Prod.mk.inj ho).1]
  | finalize =>
    have hrebuilt : ∀ report : Report,
        (afterRebuild job report).errorDescription ≠ some .sequenceNotZero := by
      intro report
      obtain ⟨entries, hentries, -⟩ := addIndices_eq report.built job
      unfold afterRebuild
      rw [hentries]
      split
      · exact hjob
      · simp
    cases finalized_of_answered hp with
    | lost => exact hjob
    | standing | down => exact hrebuilt _

theorem Passes.describes (hp : Passes im ps job h result)
    (hjob : job.errorDescription ≠ some .sequenceNotZero) :
    result.errorDescription ≠ some .sequenceNotZero := by
  induction hp with
  | start => exact hjob
  | step hpassage _ ih =>
    obtain ⟨job₁, job₂, job₃, hw, hs, e, e', -, -, -, hentered, hwork, hstamp, hleft⟩ :=
      hpassage.parts
    obtain ⟨-, executedAt, finalizedAt, hstamped⟩ := stampEnd_cases hstamp
    have hjob₁ : job₁.errorDescription ≠ some .sequenceNotZero := by rwa [hentered]
    have hjob₂ := work_describes hwork hjob₁
    refine ih ?_
    rw [hleft, hstamped]
    exact hjob₂

/-- An execution that is passed puts its time on the job, and no other phase does. -/
theorem Passage.executedAt (hp : Passage im p job h job') :
    (p = .execute ∧ ∃ time, job'.executedAt = some time ∧ ⟨.now, time⟩ ∈ h) ∨
      (p ≠ .execute ∧ job'.executedAt = job.executedAt) := by
  obtain ⟨job₁, job₂, job₃, hw, hs, e, e', rfl, -, -, hentered, hwork, hstamp, hleft⟩ := hp.parts
  have hkept : job₂.executedAt = job.executedAt := by
    rw [(work_kept hwork).1.executedAt, hentered]
  cases p with
  | validate | prepare =>
    obtain ⟨-, rfl⟩ := answered_pure.1 hstamp
    exact .inr ⟨by decide, by rw [hleft, hkept]⟩
  | execute =>
    obtain ⟨time, rfl, hstamped⟩ := stampEnd_execute hstamp
    exact .inl ⟨rfl, time, by rw [hleft, hstamped], by simp⟩
  | finalize =>
    obtain ⟨time, rfl, hstamped⟩ := stampEnd_finalize hstamp
    exact .inr ⟨by decide, by rw [hleft, hstamped, hkept]⟩

/-- A phase that is passed puts the time of the end on the job only when it is the last one. -/
theorem Passage.finalizedAt (hp : Passage im p job h job') (hlast : p ≠ .finalize) :
    job'.finalizedAt = job.finalizedAt := by
  obtain ⟨job₁, job₂, job₃, hw, hs, e, e', rfl, -, -, hentered, hwork, hstamp, hleft⟩ := hp.parts
  have hkept : job₂.finalizedAt = job.finalizedAt := by
    rw [(work_kept hwork).1.finalizedAt, hentered]
  cases p with
  | validate | prepare =>
    obtain ⟨-, rfl⟩ := answered_pure.1 hstamp
    rw [hleft, hkept]
  | execute =>
    obtain ⟨time, rfl, hstamped⟩ := stampEnd_execute hstamp
    rw [hleft, hstamped, hkept]
  | finalize => exact absurd rfl hlast

theorem Passes.executedAt (hp : Passes im ps job h result) :
    (.execute ∈ ps → ∃ time, result.executedAt = some time ∧ ⟨.now, time⟩ ∈ h) ∧
      (.execute ∉ ps → result.executedAt = job.executedAt) := by
  induction hp with
  | start => simp
  | @step p ps job job' result h h' hpassage _ ih =>
    obtain ⟨hstamped, hkept⟩ := ih
    by_cases hlater : .execute ∈ ps
    · obtain ⟨time, htime, hin⟩ := hstamped hlater
      exact ⟨fun _ => ⟨time, htime, List.mem_append_right _ hin⟩,
        fun hnone => absurd (List.mem_cons_of_mem _ hlater) hnone⟩
    · rw [hkept hlater]
      rcases hpassage.executedAt with ⟨rfl, time, htime, hin⟩ | ⟨hother, hsame⟩
      · exact ⟨fun _ => ⟨time, htime, List.mem_append_left _ hin⟩, by simp⟩
      · exact ⟨fun hthere => by simp_all, fun _ => hsame⟩

theorem Passes.finalizedAt (hp : Passes im ps job h result) (hlast : .finalize ∉ ps) :
    result.finalizedAt = job.finalizedAt := by
  induction hp with
  | start => rfl
  | step hpassage _ ih =>
    simp only [List.mem_cons, not_or] at hlast
    obtain ⟨hne, hrest⟩ := hlast
    rw [ih hrest, hpassage.finalizedAt (Ne.symm hne)]

/-! ### What was recorded -/

/-- The phase that a status is the running status of. -/
def entered? (s : Job.Status) : Option Phase := Phase.all.find? fun p => p.running = s

/-- The phase that was entered last, by the statuses that were recorded. -/
def lastEntered (trace : List Job.Status) : Option Phase := (trace.filterMap entered?).getLast?

theorem entered?_running (p : Phase) : entered? p.running = some p := by cases p <;> rfl

theorem filterMap_stations (ps : List Phase) : (stations ps).filterMap entered? = ps := by
  induction ps with
  | nil => rfl
  | cons p ps ih =>
    have hleft : entered? p.done = none := by cases p <;> rfl
    simp [entered?_running, hleft, ih]

theorem entered?_failure {s : Job.Status} (hs : s.isFailure = true) : entered? s = none := by
  rcases failure_cases hs with rfl | rfl <;> rfl

theorem Passage.statuses (hp : Passage im p job h job') :
    (Import.recorded h).map (·.status) = [p.running, p.done] := by
  obtain ⟨hwork, hstamp⟩ := hp
  simp [(work_kept hwork).2, (stampEnd_cases hstamp).1.unrecorded]

theorem Passes.statuses (hp : Passes im ps job h result) :
    (Import.recorded h).map (·.status) = stations ps := by
  induction hp with
  | start => rfl
  | step hpassage _ ih => simp [hpassage.statuses, ih]

theorem Breaks.statuses (hb : Breaks im p job h result) :
    (Import.recorded h).map (·.status) = [p.running, result.status] := by
  obtain ⟨hwork, hrelease⟩ := hb
  simp [(work_kept hwork).2, release_unrecorded hrelease]

theorem lastEntered_of_breaks {job₁ : ImportJob} {h₁ h₂ : History}
    (hpasses : Passes im p.earlier job h₁ job₁) (hbreaks : Breaks im p job₁ h₂ result) :
    lastEntered ((Import.recorded (h₁ ++ h₂)).map (·.status)) = some p := by
  simp [lastEntered, hpasses.statuses, hbreaks.statuses, filterMap_stations, entered?_running,
    entered?_failure hbreaks.isFailure]

/-! ### What is kept of a failure -/

/-- The end of a job that was aborted or failed, as it can be told from what is kept of it. -/
structure Classified (job result : ImportJob) (trace : List Job.Status) (h : History) : Prop where
  /-- The error is that of the last phase, or of the validation where no phase was entered. -/
  typed : result.errorType = some .noDbConnection ∨
    result.errorType = some ((lastEntered trace).elim .validationFailed (·.stage.errorType))
  described : ∃ d, result.errorDescription = some d
  status : result.status =
    if result.errorType = some .validationFailed ∨ result.errorDescription = some .sequenceNotZero
    then .aborted else .failed
  executed : .executed ∈ trace → ∃ time, result.executedAt = some time ∧ ⟨.now, time⟩ ∈ h
  unexecuted : .executed ∉ trace → result.executedAt = job.executedAt
  unfinalized : result.finalizedAt = job.finalizedAt

/-- The end of a job by a failure in the phase that was entered last. -/
theorem classified_of_failWith {job₂ : ImportJob} {trace : List Job.Status} {stage : Stage}
    (hopen : job₂.status.isFinal = false)
    (hdescription : job₂.errorDescription ≠ some .sequenceNotZero) (hf : FailsIn stage f)
    (hstage : (lastEntered trace).elim .validationFailed (·.stage.errorType) = stage.errorType)
    (hstamped : .executed ∈ trace → ∃ time, job₂.executedAt = some time ∧ ⟨.now, time⟩ ∈ h)
    (hkept : .executed ∉ trace → job₂.executedAt = job.executedAt)
    (hunfinalized : job₂.finalizedAt = job.finalizedAt) :
    Classified job (job₂.failWith f) trace h := by
  obtain ⟨d, hend, hd⟩ := failWith_eq hopen f
  -- the description that may be kept from before is none that aborts a job
  have hsequence : d = .sequenceNotZero ↔ f.errorDescription = .sequenceNotZero := by
    rcases hd with rfl | ⟨hcleanup, hearlier⟩
    · exact Iff.rfl
    · rw [hcleanup]
      refine ⟨fun heq => ?_, fun heq => by cases heq⟩
      rw [hearlier, heq] at hdescription
      exact absurd rfl hdescription
  rw [hend]
  refine ⟨?_, ⟨d, rfl⟩, ?_, hstamped, hkept, hunfinalized⟩
  · rw [hstage]
    exact hf.imp (congrArg some) (congrArg some)
  · show ImportJob.failureStatus f = _
    simp only [ImportJob.failureStatus, Failure.isPrecondition_iff, Option.some.injEq, hsequence]

/-- A failed import is classified by the phase that it failed in, where it does not begin with the
description of a claim that came too late. -/
theorem failure_classified (hjob : job.status.isFinal = false)
    (hdescription : job.errorDescription ≠ some .sequenceNotZero)
    (hp : Answered (im.run job) h result) (hresult : result.status.isFailure = true) :
    Classified job result ((Import.recorded h).map (·.status)) h := by
  cases progress_of_run hjob hp with
  | @refused e kept henter =>
    have htrace : (Import.recorded [⟨.record (job.failWith (.unexpected .validation e.message)),
        kept⟩]).map (·.status) = [(job.failWith (.unexpected .validation e.message)).status] := rfl
    have hend := failure_cases hresult
    rw [htrace]
    refine @classified_of_failWith _ _ _ _ _ .validation hjob hdescription (.inr rfl) ?_ ?_ ?_ rfl
    · simp [lastEntered, entered?_failure hresult, Stage.errorType]
    · intro hexecuted
      rcases hend with hend | hend <;> simp [hend] at hexecuted
    · exact fun _ => rfl
  | @broken p job₁ _ h₁ h₂ hpasses hbreaks =>
    have htrace : (Import.recorded (h₁ ++ h₂)).map (·.status) =
        stations p.earlier ++ [p.running, result.status] := by
      rw [recorded_append, List.map_append, hpasses.statuses, hbreaks.statuses]
    have hentered := lastEntered_of_breaks hpasses hbreaks
    rw [htrace] at hentered ⊢
    have hexecuted : .executed ∈ stations p.earlier ++ [p.running, result.status] ↔
        .execute ∈ p.earlier := by
      rcases failure_cases hresult with hend | hend <;> rw [hend] <;> cases p <;> decide
    obtain @⟨job₂, f, hw, hr, kept, kept', hwork, hrelease⟩ := hbreaks
    obtain ⟨hkept, -⟩ := work_kept hwork
    have hdescription₁ := hpasses.describes hdescription
    have hdescription₂ := work_describes hwork hdescription₁
    obtain ⟨hstamped, hunstamped⟩ := hpasses.executedAt
    refine classified_of_failWith (hkept.status ▸ p.running_open) hdescription₂ (work_failsIn hwork)
      ?_ ?_ ?_ ?_
    · rw [hentered]
      rfl
    · intro hin
      obtain ⟨time, htime, hnow⟩ := hstamped (hexecuted.1 hin)
      exact ⟨time, by rw [hkept.executedAt, ← htime], List.mem_append_left _ hnow⟩
    · intro hout
      rw [hkept.executedAt, ← hunstamped (hexecuted.not.1 hout)]
    · rw [hkept.finalizedAt, ← hpasses.finalizedAt (by cases p <;> decide)]
  | finished hpasses =>
    rw [hpasses.status_finalized] at hresult
    cases hresult

/-- The import of roads that are not there is classified. -/
theorem roads_classified :
    ((viewImporter.run roadsJob).carryOut tableless).2.status.isFailure = true ∧
      Classified roadsJob ((viewImporter.run roadsJob).carryOut tableless).2
        ((Import.recorded ((viewImporter.run roadsJob).carryOut tableless).1).map (·.status))
        ((viewImporter.run roadsJob).carryOut tableless).1 := by
  have hend : ((viewImporter.run roadsJob).carryOut tableless).2.status.isFailure = true := by
    decide +kernel
  exact ⟨hend, failure_classified (by decide) (by decide) (answered_carryOut _ _) hend⟩

end Importer

end Import

end BulkImport
