import BulkImport.Proofs.Import.Course
import BulkImport.Proofs.Surroundings
import Mathlib.Data.List.Chain

/-!
# The statuses of a run

A run takes a job through two statuses for each phase, and records each of them as it is reached.
It passes all of them, or the first ones and then ends without success in one more (`Trail`,
`Course.trail`).  It never learns whether a record could be kept, so that it does the same either
way (`deaf_run`).  Both together say what a run shows to whoever keeps its records, in any
surroundings (`run_leaves_trail`).
-/

namespace BulkImport.Import

open BulkImport.Job BulkImport.Sql BulkImport.Table BulkImport.Program
open BulkImport.ImportJob (advance_of_canAdvanceTo eq_of_advance isFailure_failWith)

/-- The statuses of a job on its way through some phases. -/
def stations (ps : List Phase) : List Job.Status := ps.flatMap fun p => [p.running, p.done]

/-- The statuses of a job on its way through an import. -/
def milestones : List Job.Status :=
  [.validating, .validated, .preparing, .prepared, .executing, .executed, .finalizing, .finalized]

theorem stations_all : stations Phase.all = milestones := rfl

@[simp] theorem stations_cons (p : Phase) (ps : List Phase) :
    stations (p :: ps) = p.running :: p.done :: stations ps := rfl

/-- The statuses that are recorded of a job which comes with one status to a way that leads through
others: all of them, or the first ones and then one in which the job ends without success.  The way
is not entered by a job that is as far already. -/
inductive Trail (start : Job.Status) (way : List Job.Status) : List Job.Status → Prop where
  | whole (hstart : ∀ s ∈ way.head?, start.ordinal < s.ordinal) : Trail start way way
  | cut {passed : List Job.Status} {last : Job.Status} (hpassed : passed <+: way)
      (hproper : passed ≠ way) (hlast : last = .aborted ∨ last = .failed)
      (hempty : passed = [] ↔ ∀ s ∈ way.head?, s.ordinal ≤ start.ordinal) :
      Trail start way (passed ++ [last])

/-- A trail that begins with a phase that was passed. -/
theorem Trail.passed {start : Job.Status} {p : Phase} {ps : List Phase} {l : List Job.Status}
    (h : Trail p.done (stations ps) l) (hstart : start.ordinal < p.running.ordinal) :
    Trail start (stations (p :: ps)) (p.running :: p.done :: l) := by
  cases h with
  | whole => exact .whole (by simpa using hstart)
  | @cut passed last hpassed hproper hlast =>
    have hon : p.running :: p.done :: passed <+: stations (p :: ps) := by simpa using hpassed
    exact .cut hon (by simpa using hproper) hlast (by simpa using hstart)

/-- A question that keeps a job. -/
def Question.Keeps : Question → Prop
  | .record _ => True
  | _ => False

namespace Importer

variable {im : Importer} {job result : ImportJob} {h : History}

/-! ### The trail of a course -/

theorem failure_cases {s : Job.Status} (hs : s.isFailure = true) : s = .aborted ∨ s = .failed := by
  cases s <;> simp_all [Job.Status.isFailure]

theorem failWith_cases (hjob : job.status.isFinal = false) (f : Failure) :
    ((job.failWith f).status = .aborted ∨ (job.failWith f).status = .failed) ∧
      job.status.CanAdvanceTo (job.failWith f).status := by
  have hfailure := isFailure_failWith hjob f
  exact ⟨failure_cases hfailure, hjob, .inl hfailure⟩

/-- The records of a course are a trail through its phases, and each status can be reached from the
one before. -/
theorem Course.trail {ps : List Phase} (hc : Course im ps job h result) (hps : ps <:+ Phase.all)
    (hjob : ps ≠ [] → job.status.isFinal = false) :
    Trail job.status (stations ps) ((Import.recorded h).map (·.status)) ∧
      List.IsChain Job.Status.CanAdvanceTo
        (job.status :: (Import.recorded h).map (·.status)) := by
  induction hc with
  | finished job => exact ⟨.whole (by simp [stations]), .singleton _⟩
  | @refused p ps job e kept henter =>
    obtain ⟨hlast, hreach⟩ :=
      failWith_cases (hjob (List.cons_ne_nil p ps)) (.unexpected p.stage e.message)
    have hfar : p.running.ordinal ≤ job.status.ordinal := by
      by_contra hnear
      rw [advance_of_canAdvanceTo ⟨hreach.1, .inr (Nat.lt_of_not_le hnear)⟩] at henter
      cases henter
    refine ⟨?_, by simpa using hreach⟩
    exact .cut List.nil_prefix (by simp) hlast (by simpa using hfar)
  | @broken p ps job job₁ job₂ f h h' kept kept' henter hwork hrelease =>
    obtain ⟨hcan, rfl⟩ := eq_of_advance henter
    obtain ⟨hkept, hsilent⟩ := work_kept hwork
    have hstatus : job₂.status = p.running := hkept.status
    obtain ⟨hlast, hreach⟩ := failWith_cases (hstatus ▸ p.running_open) f
    rw [hstatus] at hreach
    have hrecorded : (Import.recorded (⟨.record { job with status := p.running }, kept⟩ ::
        (h ++ (h' ++ [⟨.record (job₂.failWith f), kept'⟩])))).map (·.status) =
        [p.running] ++ [(job₂.failWith f).status] := by
      simp [hsilent, release_unrecorded hrelease]
    rw [hrecorded]
    refine ⟨.cut ⟨p.done :: stations ps, rfl⟩ (by simp) hlast ?_, by simp [hcan, hreach]⟩
    simpa using hcan.ordinal_lt
  | @passed p ps job job₁ job₂ job₃ job₄ result h h' h'' kept kept' henter hwork hstamp hleave
      hrest ih =>
    obtain ⟨hcan, hjob₁⟩ := eq_of_advance henter
    obtain ⟨-, hjob₄⟩ := eq_of_advance hleave
    obtain ⟨hps', hlast⟩ := isFinal_done_of_suffix hps
    have hstatus₁ : job₁.status = p.running := by rw [hjob₁]
    have hstatus₄ : job₄.status = p.done := by rw [hjob₄]
    have hrecorded : (Import.recorded (⟨.record job₁, kept⟩ ::
        (h ++ (h' ++ ⟨.record job₄, kept'⟩ :: h'')))).map (·.status) =
        p.running :: p.done :: (Import.recorded h'').map (·.status) := by
      simp [(work_kept hwork).2, (stampEnd_cases hstamp).1.unrecorded, hstatus₁, hstatus₄]
    obtain ⟨htrail, hchain⟩ := ih hps' fun hne => by
      rw [hstatus₄, ← Bool.not_eq_true]
      exact fun hended => hne (hlast.2 hended)
    rw [hrecorded]
    rw [hstatus₄] at htrail hchain
    have hdone : p.running.CanAdvanceTo p.done := by cases p <;> decide
    refine ⟨htrail.passed hcan.ordinal_lt, ?_⟩
    simp [hcan, hdone, hchain]

/-! ### A run does not listen to whoever keeps its records -/

theorem deaf_record (job : ImportJob) : Deaf Question.Keeps (record job) :=
  ⟨fun _ _ _ => rfl, fun _ => trivial⟩

/-- What records nothing does not ask to have a job kept. -/
theorem deaf_of_unrecorded {α : Type} {p : Action α}
    (h : ∀ h a, Answered p h a → Import.recorded h = []) : Deaf Question.Keeps p := by
  have : ∀ q, Nonempty (Answer q) := fun q => ⟨oblige q⟩
  refine deaf_of_unasked fun history a hp e he hkeeps => ?_
  obtain ⟨q, answer⟩ := e
  cases q with
  | record job =>
    have hjob : job ∈ Import.recorded history := List.mem_filterMap.2 ⟨_, he, rfl⟩
    rw [h history a hp] at hjob
    cases hjob
  | connect | execute | executeAll | fetchInteger | fetchTexts | inspect | now => cases hkeeps

theorem deaf_work (p : Phase) (job : ImportJob) : Deaf Question.Keeps (im.work p job) :=
  deaf_of_unrecorded fun _ _ hp => (work_kept hp).2

theorem deaf_transition (p : Phase) (next : Job.Status) (job : ImportJob) :
    Deaf Question.Keeps (transition p next job) := by
  unfold transition
  split
  · exact deaf_pure _
  · exact deaf_andThen (deaf_record _) fun _ => deaf_pure _

theorem deaf_fail (job : ImportJob) (f : Failure) : Deaf Question.Keeps (fail job f) :=
  deaf_andThen (deaf_record _) fun _ => deaf_pure _

theorem deaf_stampEnd (p : Phase) (job : ImportJob) : Deaf Question.Keeps (stampEnd p job) :=
  deaf_of_unrecorded fun _ _ hp => (stampEnd_cases hp).1.unrecorded

theorem deaf_releaseFacade (job : ImportJob) : Deaf Question.Keeps (im.releaseFacade job) :=
  deaf_of_unrecorded fun _ _ hp => releaseFacade_unrecorded hp

theorem deaf_runPhases (ps : List Phase) (job : ImportJob) :
    Deaf Question.Keeps (im.runPhases ps job) := by
  induction ps generalizing job with
  | nil => exact deaf_pure job
  | cons p ps ih =>
    refine deaf_andThen (deaf_transition _ _ _) fun entered => ?_
    obtain ⟨job₁, r⟩ := entered
    cases r with
    | error f => exact deaf_fail _ _
    | ok _ =>
      refine deaf_andThen (deaf_work p job₁) fun worked => ?_
      obtain ⟨job₂, r⟩ := worked
      cases r with
      | error f =>
        dsimp only
        split
        · exact deaf_andThen (deaf_releaseFacade job₂) fun _ => deaf_fail _ _
        · exact deaf_fail _ _
      | ok _ =>
        refine deaf_andThen (deaf_stampEnd p job₂) fun job₃ => ?_
        refine deaf_andThen (deaf_transition _ _ _) fun left => ?_
        obtain ⟨job₄, r⟩ := left
        cases r with
        | error f => exact deaf_fail _ _
        | ok _ => exact ih job₄

theorem deaf_run (im : Importer) (job : ImportJob) : Deaf Question.Keeps (im.run job) := by
  unfold run
  split
  · exact deaf_pure job
  · exact deaf_runPhases _ _

theorem sent_congr {h h' : History} (hasked : h'.map Exchange.question = h.map Exchange.question) :
    sent h' = sent h := by
  have hsent : ∀ h : History, sent h = (h.map Exchange.question).flatMap Question.calls := by
    simp [sent, List.flatMap_map]
  rw [hsent, hsent, hasked]

theorem recorded_congr {h h' : History}
    (hasked : h'.map Exchange.question = h.map Exchange.question) :
    Import.recorded h' = Import.recorded h := by
  have hrecorded : ∀ h : History, Import.recorded h = (h.map Exchange.question).filterMap fun q =>
      match q with
      | .record job => some job
      | _ => none := by
    intro h
    rw [List.filterMap_map]
    rfl
  rw [hrecorded, hrecorded, hasked]

/-! ### What a run shows -/

/-- In any surroundings, a job that has ended is left alone.  Any other is brought to an end: its
records are a trail through the import, each in a status that can be reached from the one before,
and the last of them is the job as the run leaves it.  In other surroundings that answer everything
alike but whether a record was kept, the run sends the same, records the same and ends the same. -/
theorem run_leaves_trail {σ : Type} (im : Importer) (job : ImportJob)
    (answer : (q : Question) → σ → Answer q × σ) (s : σ) :
    (job.status.isFinal = true →
      (im.run job).trace answer s = [] ∧ (im.run job).runWith answer s = (job, s)) ∧
    (job.status.isFinal = false →
      ((im.run job).runWith answer s).1.status.isFinal = true ∧
      Trail job.status milestones
        ((Import.recorded ((im.run job).trace answer s)).map (·.status)) ∧
      List.IsChain Job.Status.CanAdvanceTo
        (job.status :: (Import.recorded ((im.run job).trace answer s)).map (·.status)) ∧
      (Import.recorded ((im.run job).trace answer s)).getLast? =
        some ((im.run job).runWith answer s).1) ∧
    ∀ {τ : Type} (same : σ → τ → Prop) (answer' : (q : Question) → τ → Answer q × τ) (t : τ),
      Alike Question.Keeps same answer answer' → same s t →
      ((im.run job).runWith answer' t).1 = ((im.run job).runWith answer s).1 ∧
      sent ((im.run job).trace answer' t) = sent ((im.run job).trace answer s) ∧
      Import.recorded ((im.run job).trace answer' t) =
        Import.recorded ((im.run job).trace answer s) := by
  refine ⟨fun hjob => ?_, fun hjob => ?_, fun same answer' t halike hst => ?_⟩
  · simp only [run, if_pos hjob]
    exact ⟨rfl, rfl⟩
  · have hp := answered_trace answer (im.run job) s
    obtain ⟨earlier, hrecorded, -, hfinal, -⟩ := run_recorded hjob hp
    obtain ⟨htrail, hchain⟩ := (course_of_run hjob hp).trail List.suffix_rfl fun _ => hjob
    rw [stations_all] at htrail
    exact ⟨hfinal, htrail, hchain, by simp [hrecorded]⟩
  · have hdeaf := deaf_run im job
    have hasked := trace_congr halike hdeaf hst
    exact ⟨runWith_congr halike hdeaf hst, sent_congr hasked, recorded_congr hasked⟩

/-- There is no table, and nothing else is in the way. -/
def tableless : (q : Question) → Answer q
  | .fetchInteger _ _ => .ok 0
  | q => oblige q

/-- There is no table, and every job is kept. -/
def keepAll : (q : Question) → List ImportJob → Answer q × List ImportJob
  | .record job, kept => (true, job :: kept)
  | q, kept => (tableless q, kept)

/-- There is no table, and no job can be kept. -/
def keepNone : (q : Question) → List ImportJob → Answer q × List ImportJob
  | .record _, kept => (false, kept)
  | q, kept => (tableless q, kept)

theorem alike_keepNone : Alike Question.Keeps (fun _ _ => True) keepAll keepNone where
  state := fun _ _ _ _ => trivial
  heard := by
    intro q _ _ _ hq
    cases q with
    | record => exact absurd trivial hq
    | connect | execute | executeAll | fetchInteger | fetchTexts | inspect | now => rfl

/-- Roads that are not there are aborted out of the validation, and their import sees to it that
this is recorded, whether or not it is kept. -/
theorem roads_trail :
    ((Import.recorded ((viewImporter.run roadsJob).trace keepNone [])).map (·.status) =
        [.validating, .aborted]) ∧
      Trail roadsJob.status milestones
        ((Import.recorded ((viewImporter.run roadsJob).trace keepAll [])).map (·.status)) ∧
      Import.recorded ((viewImporter.run roadsJob).trace keepNone []) =
        Import.recorded ((viewImporter.run roadsJob).trace keepAll []) := by
  obtain ⟨-, hopen, hdeaf⟩ := run_leaves_trail viewImporter roadsJob keepAll []
  exact ⟨by decide +kernel, (hopen (by decide)).2.1,
    (hdeaf _ keepNone [] alike_keepNone trivial).2.2⟩

end Importer

end BulkImport.Import
