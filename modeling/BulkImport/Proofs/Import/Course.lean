import BulkImport.Proofs.Import.Execution
import BulkImport.Proofs.Import.Finalization

/-!
# The course of a run

A run takes its phases one by one.  Each is refused because the job is too far on already, breaks
off with a failure, or is passed, and what a run does is what its phases do with the records of the
job between them (`Course`, `course_of_answered`).  Leaving a phase is never refused, as no phase
touches the status of the job (`work_kept`).

Of a job that has not ended, a run records the name and the target that the job has, in statuses
that do not end it, and last the job as the run gives it, in a status that does (`run_recorded`).
-/

namespace BulkImport.Import

open BulkImport.Job BulkImport.Sql BulkImport.Table BulkImport.Program
open BulkImport.ImportJob (advance_of_canAdvanceTo eq_of_advance isFailure_failWith)

/-- A job that is in a phase has not ended. -/
theorem Phase.running_open (p : Phase) : p.running.isFinal = false := by cases p <;> rfl

/-- What a phase may do to a database. -/
def Phase.verbs : Phase → List Verb
  | validate => [.probe]
  | prepare => [.claim, .listIndices, .dropIndices, .createTrigger, .createView]
  | execute => [.load]
  | finalize => [.createIndex, .dropTrigger, .dropView, .markMaintenance]

namespace Importer

variable {im : Importer}

/-! ### Between the phases -/

/-- A phase does nothing to a database that is not its own to do. -/
theorem work_does {p : Phase} {job : ImportJob} {h : History} {o : Outcome}
    (hp : Answered (im.work p job) h o) : Does p.verbs (sent h) := by
  cases p with
  | validate =>
    obtain ⟨⟨calls, hsends, hdoes⟩, -⟩ := validate_calls hp
    exact hsends.sent ▸ hdoes
  | prepare =>
    cases prepare_cases hp with
    | lost htarget => exact (sends_target htarget).sent ▸ does_nil _
    | unclaimable => exact does_nil _
    | refused _ _ hs | notFresh _ _ hs | versionKept _ _ hs =>
      exact does_singleton (by decide) (verb_claimed hs)
    | @installed c t s job' h r _ _ hs _ hinstall =>
      have hclaim : Does Phase.prepare.verbs [⟨c, s⟩] :=
        does_singleton (by decide) (verb_claimed hs)
      exact hclaim.append ((does_install hinstall).mono (by decide))
  | execute =>
    obtain ⟨⟨calls, hsends, hdoes⟩, -⟩ := execute_calls hp
    exact hsends.sent ▸ hdoes
  | finalize =>
    rcases finalize_cases hp with ⟨f, -, ht⟩ | ⟨c, t, h₁, h₂, _, _, rfl, ht, hs, hb, hm, -⟩
    · exact (sends_target ht).sent ▸ does_nil _
    · rw [((sends_target ht).append hs).sent]
      exact (hb.mono (by decide)).append
        (((does_downCalls im c t).mono (by decide)).append (hm.mono (by decide)))

theorem kept_of_prepared {job : ImportJob} {h : History} {o : Outcome}
    (hp : Prepared im job h o) : Kept job o.1 ∧ recorded h = [] := by
  constructor
  · obtain ⟨version, hjob⟩ := prepared_job hp
    rw [hjob]
    rfl
  · cases hp with
    | lost htarget => exact (sends_target htarget).unrecorded
    | unclaimable | refused | versionKept | notFresh => rfl
    | installed hc ht hs hjob hp =>
      obtain ⟨⟨calls, raised, hsends, -, -⟩, -⟩ := install_calls hp
      exact hsends.unrecorded

/-- No phase records a job, or touches its name, its status or its target. -/
theorem work_kept {p : Phase} {job : ImportJob} {h : History} {o : Outcome}
    (hp : Answered (im.work p job) h o) : Kept job o.1 ∧ recorded h = [] := by
  cases p with
  | validate =>
    obtain ⟨⟨calls, hsends, -⟩, uploads, ho⟩ := validate_calls hp
    rw [ho]
    exact ⟨rfl, hsends.unrecorded⟩
  | prepare => exact kept_of_prepared (prepare_cases hp)
  | execute =>
    obtain ⟨⟨calls, hsends, -⟩, hkept, -⟩ := execute_calls hp
    exact ⟨hkept, hsends.unrecorded⟩
  | finalize =>
    rcases finalize_cases hp with ⟨f, rfl, ht⟩ | ⟨c, t, h₁, h₂, _, _, rfl, ht, hs, -, -, hkept, -⟩
    · exact ⟨.refl job, (sends_target ht).unrecorded⟩
    · exact ⟨hkept, ((sends_target ht).append hs).unrecorded⟩

theorem fail_cases {job result : ImportJob} {f : Failure} {h : History}
    (hp : Answered (fail job f) h result) :
    result = job.failWith f ∧ ∃ kept, h = [⟨.record (job.failWith f), kept⟩] := by
  obtain ⟨h₁, h₂, u, rfl, hrecord, hend⟩ := answered_andThen.1 hp
  obtain ⟨kept, rfl⟩ := answered_record.1 hrecord
  obtain ⟨rfl, rfl⟩ := answered_pure.1 hend
  exact ⟨rfl, kept, rfl⟩

/-- A job is moved on and recorded, or is not touched. -/
theorem transition_cases {p : Phase} {next : Job.Status} {job : ImportJob} {h : History}
    {o : Outcome} (hp : Answered (transition p next job) h o) :
    (∃ e, job.advance next = .error e ∧ h = [] ∧
        o = (job, .error (.unexpected p.stage e.message))) ∨
      ∃ job' kept, job.advance next = .ok job' ∧ h = [⟨.record job', kept⟩] ∧
        o = (job', .ok ()) := by
  unfold transition at hp
  cases hadvance : job.advance next with
  | error e =>
    rw [hadvance] at hp
    obtain ⟨rfl, rfl⟩ := answered_pure.1 hp
    exact .inl ⟨e, rfl, rfl, rfl⟩
  | ok job' =>
    rw [hadvance] at hp
    obtain ⟨h₁, h₂, u, rfl, hrecord, hend⟩ := answered_andThen.1 hp
    obtain ⟨kept, rfl⟩ := answered_record.1 hrecord
    obtain ⟨rfl, rfl⟩ := answered_pure.1 hend
    exact .inr ⟨job', kept, rfl, rfl, rfl⟩

/-- The end of a phase may put its time on the job. -/
theorem stampEnd_cases {p : Phase} {job job' : ImportJob} {h : History}
    (hp : Answered (stampEnd p job) h job') :
    Sends h [] ∧ ∃ executedAt finalizedAt,
      job' = { job with executedAt := executedAt, finalizedAt := finalizedAt } := by
  cases p with
  | validate | prepare =>
    obtain ⟨rfl, rfl⟩ := answered_pure.1 hp
    exact ⟨⟨rfl, rfl⟩, _, _, rfl⟩
  | execute | finalize =>
    obtain ⟨h₁, h₂, time, rfl, htime, hend⟩ := answered_andThen.1 hp
    obtain rfl := answered_query.1 htime
    obtain ⟨rfl, rfl⟩ := answered_pure.1 hend
    exact ⟨⟨rfl, rfl⟩, _, _, rfl⟩

theorem releaseFacade_sends {job : ImportJob} {h : History} {u : Unit}
    (hp : Answered (im.releaseFacade job) h u) :
    (∃ f, Answered (target .finalization job).run h (.error f)) ∨
      ∃ c t h₁ h₂, h = h₁ ++ h₂ ∧ Answered (target .finalization job).run h₁ (.ok (c, t)) ∧
        Sends h₂ (im.downCalls c t) := by
  obtain ⟨h₁, h₂, found, rfl, htarget, hrest⟩ := answered_andThen.1 hp
  cases found with
  | error f =>
    obtain ⟨rfl, -⟩ := answered_pure.1 hrest
    rw [List.append_nil]
    exact .inl ⟨f, htarget⟩
  | ok found =>
    obtain ⟨c, t⟩ := found
    obtain ⟨h₃, h₄, failures, rfl, hdown, hend⟩ := answered_andThen.1 hrest
    obtain ⟨rfl, -⟩ := answered_pure.1 hend
    rw [List.append_nil]
    exact .inr ⟨c, t, h₁, h₃, rfl, htarget, tearDown_calls hdown⟩

theorem releaseFacade_unrecorded {job : ImportJob} {h : History} {u : Unit}
    (hp : Answered (im.releaseFacade job) h u) : recorded h = [] := by
  rcases releaseFacade_sends hp with ⟨f', ht⟩ | ⟨c, t, h₁, h₂, rfl, ht, hs⟩
  · exact (sends_target ht).unrecorded
  · exact ((sends_target ht).append hs).unrecorded

/-! ### The course of a run -/

/-- What a failed phase leaves to be taken down is taken down. -/
def release (im : Importer) (p : Phase) (job : ImportJob) (f : Failure) : Action Unit :=
  if mustRelease p job f then im.releaseFacade job else pure ()

/-- A release takes the facade down, unless there is no need to or the target is not found. -/
theorem release_cases {p : Phase} {job : ImportJob} {f : Failure} {h : History}
    (hp : Answered (im.release p job f) h ()) :
    (mustRelease p job f = false ∧ h = []) ∨
      (mustRelease p job f = true ∧
        ((∃ f', Answered (target .finalization job).run h (.error f')) ∨
          ∃ c t h₁ h₂, h = h₁ ++ h₂ ∧ Answered (target .finalization job).run h₁ (.ok (c, t)) ∧
            Sends h₂ (im.downCalls c t))) := by
  unfold release at hp
  split at hp
  · next hmust => exact .inr ⟨hmust, releaseFacade_sends hp⟩
  · next hmust => exact .inl ⟨by simpa using hmust, (answered_pure.1 hp).1⟩

/-- What a release sends takes the facade down at most. -/
theorem does_release {p : Phase} {job : ImportJob} {f : Failure} {h : History}
    (hp : Answered (im.release p job f) h ()) : Does [.dropTrigger, .dropView] (sent h) := by
  rcases release_cases hp with ⟨-, rfl⟩ | ⟨-, ⟨f', htarget⟩ | ⟨c, t, h₁, h₂, rfl, htarget, hs⟩⟩
  · exact does_nil _
  · rw [(sends_target htarget).sent]
    exact does_nil _
  · rw [((sends_target htarget).append hs).sent]
    exact does_downCalls im c t

theorem release_unrecorded {p : Phase} {job : ImportJob} {f : Failure} {h : History}
    (hp : Answered (im.release p job f) h ()) : recorded h = [] := by
  unfold release at hp
  split at hp
  · exact releaseFacade_unrecorded hp
  · rw [(answered_pure.1 hp).1, recorded_nil]

/-- How a job goes through phases: nothing is left to do, the first phase is refused, breaks off,
or is passed and the others follow. -/
inductive Course (im : Importer) : List Phase → ImportJob → History → ImportJob → Prop where
  | finished (job : ImportJob) : Course im [] job [] job
  | refused {p : Phase} {ps : List Phase} {job : ImportJob} {e : Job.ChangeError} {kept : Bool}
      (henter : job.advance p.running = .error e) :
      Course im (p :: ps) job
        [⟨.record (job.failWith (.unexpected p.stage e.message)), kept⟩]
        (job.failWith (.unexpected p.stage e.message))
  | broken {p : Phase} {ps : List Phase} {job job₁ job₂ : ImportJob} {f : Failure}
      {h h' : History} {kept kept' : Bool} (henter : job.advance p.running = .ok job₁)
      (hwork : Answered (im.work p job₁) h (job₂, .error f))
      (hrelease : Answered (im.release p job₂ f) h' ()) :
      Course im (p :: ps) job
        (⟨.record job₁, kept⟩ :: (h ++ (h' ++ [⟨.record (job₂.failWith f), kept'⟩])))
        (job₂.failWith f)
  | passed {p : Phase} {ps : List Phase} {job job₁ job₂ job₃ job₄ result : ImportJob}
      {h h' h'' : History} {kept kept' : Bool} (henter : job.advance p.running = .ok job₁)
      (hwork : Answered (im.work p job₁) h (job₂, .ok ()))
      (hstamp : Answered (stampEnd p job₂) h' job₃) (hleave : job₃.advance p.done = .ok job₄)
      (hrest : Course im ps job₄ h'' result) :
      Course im (p :: ps) job
        (⟨.record job₁, kept⟩ :: (h ++ (h' ++ ⟨.record job₄, kept'⟩ :: h''))) result

/-- A phase that was entered and worked through is left. -/
theorem advance_done {p : Phase} {job job₁ job₂ job₃ : ImportJob} {h h' : History}
    {r : Except Failure Unit} (henter : job.advance p.running = .ok job₁)
    (hwork : Answered (im.work p job₁) h (job₂, r))
    (hstamp : Answered (stampEnd p job₂) h' job₃) :
    job₃.advance p.done = .ok { job₃ with status := p.done } := by
  obtain ⟨-, rfl⟩ := eq_of_advance henter
  obtain ⟨-, executedAt, finalizedAt, rfl⟩ := stampEnd_cases hstamp
  refine advance_of_canAdvanceTo ?_
  -- the phase left the status alone, so the job is still in the phase
  have hstatus : job₂.status = p.running := (work_kept hwork).1.status
  show job₂.status.CanAdvanceTo p.done
  rw [hstatus]
  cases p <;> decide

/-- The calls of a course are those of its first phase and then those that release what this one
left or those of the other phases, which find the job moved on. -/
theorem Course.step {p : Phase} {ps : List Phase} {job result : ImportJob} {h : History}
    (hc : Course im (p :: ps) job h result) (hcan : job.status.CanAdvanceTo p.running) :
    ∃ job₂ r hw hr, sent h = sent hw ++ sent hr ∧
      (∀ registry, Follows registry h → Follows registry hw ∧ Follows registry hr) ∧
      Answered (im.work p { job with status := p.running }) hw (job₂, r) ∧
      ((∃ f, r = .error f ∧ Answered (im.release p job₂ f) hr ()) ∨
        ∃ executedAt finalizedAt, r = .ok () ∧
          Course im ps { job₂ with
            status := p.done, executedAt := executedAt, finalizedAt := finalizedAt } hr
            result) := by
  cases hc with
  | refused henter =>
    rw [advance_of_canAdvanceTo hcan] at henter
    cases henter
  | @broken _ _ _ job₁ job₂ f hw hr kept kept' henter hwork hrelease =>
    obtain ⟨-, rfl⟩ := eq_of_advance henter
    refine ⟨job₂, _, hw, hr, ?_, fun registry hf => ?_, hwork, .inl ⟨f, rfl, hrelease⟩⟩
    · simp [Question.calls]
    · obtain ⟨hfw, hf⟩ := follows_append.1 (follows_cons hf)
      exact ⟨hfw, (follows_append.1 hf).1⟩
  | @passed _ _ _ job₁ job₂ job₃ job₄ _ hw hs hr kept kept' henter hwork hstamp hleave hrest =>
    obtain ⟨-, rfl⟩ := eq_of_advance henter
    obtain ⟨-, rfl⟩ := eq_of_advance hleave
    obtain ⟨hsilent, executedAt, finalizedAt, rfl⟩ := stampEnd_cases hstamp
    refine ⟨job₂, _, hw, hr, ?_, fun registry hf => ?_, hwork, .inr ⟨_, _, rfl, hrest⟩⟩
    · simp [hsilent.sent, Question.calls]
    · obtain ⟨hfw, hf⟩ := follows_append.1 (follows_cons hf)
      exact ⟨hfw, follows_cons (follows_append.1 hf).2⟩

/-- Carrying out phases is going through them. -/
theorem course_of_answered {ps : List Phase} {job result : ImportJob} {h : History}
    (hp : Answered (im.runPhases ps job) h result) : Course im ps job h result := by
  induction ps generalizing job h with
  | nil =>
    obtain ⟨rfl, rfl⟩ := answered_pure.1 hp
    exact .finished _
  | cons p ps ih =>
    obtain ⟨h₁, h₂, entered, rfl, htransition, hentered⟩ := answered_andThen.1 hp
    rcases transition_cases htransition with ⟨e, he, rfl, rfl⟩ | ⟨job₁, kept, henter, rfl, rfl⟩
    · obtain ⟨rfl, kept, rfl⟩ := fail_cases hentered
      exact .refused he
    obtain ⟨h₃, h₄, ⟨job₂, r⟩, rfl, hwork, hworked⟩ := answered_andThen.1 hentered
    cases r with
    | error f =>
      -- the program has the release in both branches, the course has it as one
      have hbroken : ∃ h₅ h₆, h₄ = h₅ ++ h₆ ∧ Answered (im.release p job₂ f) h₅ () ∧
          Answered (fail job₂ f) h₆ result := by
        unfold release
        dsimp only at hworked
        split at hworked
        · next hmust =>
          rw [if_pos hmust]
          obtain ⟨h₅, h₆, u, rfl, hrelease, hfail⟩ := answered_andThen.1 hworked
          exact ⟨h₅, h₆, rfl, hrelease, hfail⟩
        · next hmust =>
          rw [if_neg hmust]
          exact ⟨[], h₄, rfl, answered_pure.2 ⟨rfl, rfl⟩, hworked⟩
      obtain ⟨h₅, h₆, rfl, hrelease, hfail⟩ := hbroken
      obtain ⟨rfl, kept', rfl⟩ := fail_cases hfail
      exact .broken henter hwork hrelease
    | ok _ =>
      obtain ⟨h₅, h₆, job₃, rfl, hstamp, hstamped⟩ := answered_andThen.1 hworked
      obtain ⟨h₇, h₈, left, rfl, hleaving, hleft⟩ := answered_andThen.1 hstamped
      rcases transition_cases hleaving with ⟨e, he, -, -⟩ | ⟨job₄, kept', hleave, rfl, rfl⟩
      · rw [advance_done henter hwork hstamp] at he
        cases he
      · exact .passed henter hwork hstamp hleave (ih hleft)

/-- A run leaves a job alone that has ended. -/
theorem run_of_final {job result : ImportJob} {h : History} (hjob : job.status.isFinal = true)
    (hp : Answered (im.run job) h result) : h = [] ∧ result = job := by
  unfold run at hp
  rw [if_pos hjob] at hp
  exact answered_pure.1 hp

/-- A run of a job that has not ended goes through all phases. -/
theorem course_of_run {job result : ImportJob} {h : History} (hjob : job.status.isFinal = false)
    (hp : Answered (im.run job) h result) : Course im Phase.all job h result := by
  unfold run at hp
  rw [if_neg (by simp [hjob])] at hp
  exact course_of_answered hp

/-- A course does what its phases do, and takes down. -/
theorem Course.does {ps : List Phase} {job result : ImportJob} {h : History}
    (hc : Course im ps job h result) :
    Does (ps.flatMap Phase.verbs ++ [.dropTrigger, .dropView]) (sent h) := by
  induction hc with
  | finished => exact does_nil _
  | refused => exact does_nil _
  | @broken p ps job job₁ job₂ f h h' kept kept' henter hwork hrelease =>
    have hdone := (work_does hwork).mono fun v hv =>
      (by simp [hv] : v ∈ (p :: ps).flatMap Phase.verbs ++ [.dropTrigger, .dropView])
    have hdown := (does_release hrelease).mono fun v hv =>
      (by simp_all : v ∈ (p :: ps).flatMap Phase.verbs ++ [.dropTrigger, .dropView])
    simpa [Question.calls] using hdone.append hdown
  | @passed p ps job job₁ job₂ job₃ job₄ result h h' h'' kept kept' henter hwork hstamp hleave
      hrest ih =>
    have hdone := (work_does hwork).mono fun v hv =>
      (by simp [hv] : v ∈ (p :: ps).flatMap Phase.verbs ++ [.dropTrigger, .dropView])
    have hothers := ih.mono fun v hv =>
      (by simp_all : v ∈ (p :: ps).flatMap Phase.verbs ++ [.dropTrigger, .dropView])
    have hsilent := (stampEnd_cases hstamp).1.sent
    simpa [Question.calls, hsilent] using hdone.append hothers

/-! ### What a run records -/

theorem failWith_sameTarget (job : ImportJob) (f : Failure) :
    SameTarget job (job.failWith f) ∧ (job.failWith f).status.isFinal = true := by
  have hstatus := ImportJob.failWith_status job f
  obtain ⟨d, hend, -⟩ := ImportJob.failWith_spec job f
  refine ⟨by rw [hend]; exact ⟨rfl, rfl, rfl⟩, ?_⟩
  rw [hstatus]
  split
  · next hended => exact hended
  · exact ImportJob.isFinal_failureStatus f

/-- A course that does not end in a failure passes its first phase. -/
theorem Course.through {p : Phase} {ps : List Phase} {job result : ImportJob} {h : History}
    (hc : Course im (p :: ps) job h result) (hjob : job.status.isFinal = false)
    (hresult : result.status.isFailure = false) :
    ∃ job₂ job₄ hw hr, Answered (im.work p { job with status := p.running }) hw (job₂, .ok ()) ∧
      job₄.uploads = job₂.uploads ∧ job₄.status = p.done ∧ Course im ps job₄ hr result := by
  cases hc with
  | refused =>
    rw [isFailure_failWith hjob] at hresult
    cases hresult
  | @broken _ _ _ job₁ job₂ f hw _ _ _ henter hwork =>
    obtain ⟨-, rfl⟩ := eq_of_advance henter
    have hopen : job₂.status.isFinal = false := by
      rw [(work_kept hwork).1.status]
      exact p.running_open
    rw [isFailure_failWith hopen] at hresult
    cases hresult
  | @passed _ _ _ job₁ job₂ job₃ job₄ _ hw _ hr _ _ henter hwork hstamp hleave hrest =>
    obtain ⟨-, rfl⟩ := eq_of_advance henter
    obtain ⟨-, hjob₄⟩ := eq_of_advance hleave
    obtain ⟨-, _, _, rfl⟩ := stampEnd_cases hstamp
    exact ⟨job₂, job₄, hw, hr, hwork, by rw [hjob₄], by rw [hjob₄], hrest⟩

/-- The last phase ends a job, and no other does. -/
theorem isFinal_done_of_suffix {p : Phase} {ps : List Phase} (h : p :: ps <:+ Phase.all) :
    ps <:+ Phase.all ∧ (ps = [] ↔ p.done.isFinal = true) := by
  refine ⟨(List.suffix_cons p ps).trans h, ?_⟩
  -- the phases that are left are one of the four ends of the list
  simp only [Phase.all, List.suffix_cons_iff, List.suffix_nil, List.cons.injEq] at h
  rcases h with ⟨rfl, rfl⟩ | ⟨rfl, rfl⟩ | ⟨rfl, rfl⟩ | ⟨rfl, rfl⟩ | h
  · decide
  · decide
  · decide
  · decide
  · cases h

/-- The records of a course that is not over yet: those of the job on its way, which say where it
is, and then the one of its end. -/
theorem Course.recorded {ps : List Phase} {job result : ImportJob} {h : History}
    (hc : Course im ps job h result) (hps : ps <:+ Phase.all) (hne : ps ≠ []) :
    ∃ earlier, Import.recorded h = earlier ++ [result] ∧ SameTarget job result ∧
      result.status.isFinal = true ∧
      ∀ j ∈ earlier, SameTarget job j ∧ j.status.isFinal = false ∧
        ∃ p ∈ ps, j.status = p.running ∨ j.status = p.done := by
  induction hc with
  | finished job => exact absurd rfl hne
  | refused henter =>
    obtain ⟨htarget, hfinal⟩ := failWith_sameTarget _ _
    exact ⟨[], rfl, htarget, hfinal, fun j hj => absurd hj List.not_mem_nil⟩
  | @broken p ps job job₁ job₂ f h h' kept kept' henter hwork hrelease =>
    obtain ⟨hcan, rfl⟩ := eq_of_advance henter
    obtain ⟨hkept, hsilent⟩ := work_kept hwork
    obtain ⟨htarget, hfinal⟩ := failWith_sameTarget job₂ f
    have hentered : SameTarget job { job with status := p.running } := ⟨rfl, rfl, rfl⟩
    refine ⟨[{ job with status := p.running }], ?_, (hentered.trans hkept.sameTarget).trans htarget,
      hfinal, ?_⟩
    · simp [hsilent, release_unrecorded hrelease]
    · intro j hj
      obtain rfl := List.mem_singleton.1 hj
      exact ⟨hentered, p.running_open, p, List.mem_cons_self, .inl rfl⟩
  | @passed p ps job job₁ job₂ job₃ job₄ result h h' h'' kept kept' henter hwork hstamp hleave
      hrest ih =>
    obtain ⟨-, hjob₁⟩ := eq_of_advance henter
    obtain ⟨-, hjob₄⟩ := eq_of_advance hleave
    obtain ⟨hkept, hsilent⟩ := work_kept hwork
    obtain ⟨hstamped, _, _, rfl⟩ := stampEnd_cases hstamp
    obtain ⟨hps', hlast⟩ := isFinal_done_of_suffix hps
    have hentered : SameTarget job job₁ := by rw [hjob₁]; exact ⟨rfl, rfl, rfl⟩
    have hstatus₁ : job₁.status = p.running := by rw [hjob₁]
    have hdone : SameTarget job job₄ := (hentered.trans hkept.sameTarget).trans <| by
      rw [hjob₄]
      exact ⟨rfl, rfl, rfl⟩
    have hstatus₄ : job₄.status = p.done := by rw [hjob₄]
    have hon : SameTarget job job₁ ∧ job₁.status.isFinal = false ∧
        ∃ q ∈ p :: ps, job₁.status = q.running ∨ job₁.status = q.done :=
      ⟨hentered, hstatus₁ ▸ p.running_open, p, List.mem_cons_self, .inl hstatus₁⟩
    -- the record that follows the last phase is the one of the end
    cases ps with
    | nil =>
      cases hrest with
      | finished =>
        refine ⟨[job₁], ?_, hdone, by rw [hstatus₄]; exact hlast.1 rfl, ?_⟩
        · simp [hsilent, hstamped.unrecorded]
        · intro j hj
          obtain rfl := List.mem_singleton.1 hj
          exact hon
    | cons p' ps =>
      obtain ⟨earlier, hrecorded, htarget, hfinal, hearlier⟩ := ih hps' (by simp)
      have hopen : p.done.isFinal = false := by
        cases hended : p.done.isFinal with
        | false => rfl
        | true => cases hlast.2 hended
      refine ⟨job₁ :: job₄ :: earlier, ?_, hdone.trans htarget, hfinal, ?_⟩
      · simp [hsilent, hstamped.unrecorded, hrecorded]
      · intro j hj
        simp only [List.mem_cons] at hj
        rcases hj with rfl | rfl | hj
        · exact hon
        · exact ⟨hdone, hstatus₄ ▸ hopen, p, List.mem_cons_self, .inr hstatus₄⟩
        · obtain ⟨hsame, hj', q, hq, hstatus⟩ := hearlier j hj
          exact ⟨hdone.trans hsame, hj', q, List.mem_cons_of_mem _ hq, hstatus⟩

/-- Of a job that has not ended a run records at the end the job that it gives, which has ended,
and before that the job on its way. -/
theorem run_recorded {job result : ImportJob} {h : History} (hjob : job.status.isFinal = false)
    (hp : Answered (im.run job) h result) :
    ∃ earlier, Import.recorded h = earlier ++ [result] ∧ SameTarget job result ∧
      result.status.isFinal = true ∧
      ∀ j ∈ earlier, SameTarget job j ∧ j.status.isFinal = false := by
  obtain ⟨earlier, hrecorded, htarget, hfinal, hearlier⟩ :=
    (course_of_run hjob hp).recorded List.suffix_rfl (by decide)
  exact ⟨earlier, hrecorded, htarget, hfinal, fun j hj =>
    ⟨(hearlier j hj).1, (hearlier j hj).2.1⟩⟩

end Importer

end BulkImport.Import
