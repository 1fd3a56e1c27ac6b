import BulkImport.Proofs.Import.Course

/-!
# How far a run comes

Of the phases of a run the first ones are passed, and then one breaks off or none is left
(`Progress`, `progress_of_run`).  A job that is too far on for the first phase is refused before
anything is done.  So a run can be divided at any phase that it comes to: what it did before belongs
to the phases before, and what it does after belongs to the phases after or takes the facade down
(`Progress.divided`).
-/

namespace BulkImport.Import

open BulkImport.Job BulkImport.Sql BulkImport.Table BulkImport.Program
open BulkImport.ImportJob (advance_of_canAdvanceTo eq_of_advance isFailure_failWith)

namespace Phase

/-- The phases before one. -/
def earlier : Phase → List Phase
  | validate => []
  | prepare => [validate]
  | execute => [validate, prepare]
  | finalize => [validate, prepare, execute]

/-- The phases after one. -/
def later : Phase → List Phase
  | validate => [prepare, execute, finalize]
  | prepare => [execute, finalize]
  | execute => [finalize]
  | finalize => []

theorem earlier_append_later (p : Phase) : p.earlier ++ p :: p.later = all := by
  cases p <;> rfl

theorem eq_earlier {done ps : List Phase} {p : Phase} (h : done ++ p :: ps = all) :
    done = p.earlier := by
  -- no phase comes twice, so that the phases divide in one way only at each
  have hnodup : (p.earlier ++ p :: p.later).Nodup := by
    rw [earlier_append_later]
    decide
  obtain ⟨-, htail, hdisjoint⟩ := List.nodup_append.1 hnodup
  have hbefore : ∀ q ∈ p.earlier, ¬ q = p := fun q hq => hdisjoint q hq p List.mem_cons_self
  have hafter : ∀ q ∈ p.later, ¬ q = p := fun q hq => ne_of_mem_of_not_mem hq
    (List.nodup_cons.1 htail).1
  have hsame : p.earlier ++ p :: p.later = done ++ p :: ps := by rw [earlier_append_later, h]
  exact (split_unique hbefore hafter rfl hsame).1

/-- A job that is done with the last of the phases before one can enter it. -/
theorem canAdvanceTo_running {q p : Phase} (h : p.earlier.getLast? = some q) :
    q.done.CanAdvanceTo p.running := by
  revert h
  cases p <;> cases q <;> decide

/-- Of two phases one is before the other, unless they are one. -/
theorem order (p q : Phase) :
    (∃ between, p.earlier = q.earlier ++ q :: between) ∨ q = p ∨
      ∃ between, q.earlier = p.earlier ++ p :: between ∧ ∀ r ∈ between ++ [q], r ∈ p.later := by
  cases p <;> cases q <;> simp [earlier, later, or_assoc]

end Phase

namespace Importer

variable {im : Importer} {job job' result : ImportJob} {h : History} {p : Phase} {ps : List Phase}

/-- A phase that is passed: its work and the time of its end, between two records. -/
inductive Passage (im : Importer) (p : Phase) (job : ImportJob) : History → ImportJob → Prop where
  | intro {job₂ job₃ : ImportJob} {hw hs : History} {kept kept' : Bool}
      (hwork : Answered (im.work p { job with status := p.running }) hw (job₂, .ok ()))
      (hstamp : Answered (stampEnd p job₂) hs job₃) :
      Passage im p job
        (⟨.record { job with status := p.running }, kept⟩ ::
          (hw ++ (hs ++ [⟨.record { job₃ with status := p.done }, kept'⟩])))
        { job₃ with status := p.done }

/-- Phases that are passed one after the other. -/
inductive Passes (im : Importer) : List Phase → ImportJob → History → ImportJob → Prop where
  | start (job : ImportJob) : Passes im [] job [] job
  | step {p : Phase} {ps : List Phase} {job job' result : ImportJob} {h h' : History}
      (hpassage : Passage im p job h job') (hrest : Passes im ps job' h' result) :
      Passes im (p :: ps) job (h ++ h') result

/-- A phase that is entered and breaks off. -/
inductive Breaks (im : Importer) (p : Phase) (job : ImportJob) : History → ImportJob → Prop where
  | intro {job₂ : ImportJob} {f : Failure} {hw hr : History} {kept kept' : Bool}
      (hwork : Answered (im.work p { job with status := p.running }) hw (job₂, .error f))
      (hrelease : Answered (im.release p job₂ f) hr ()) :
      Breaks im p job
        (⟨.record { job with status := p.running }, kept⟩ ::
          (hw ++ (hr ++ [⟨.record (job₂.failWith f), kept'⟩])))
        (job₂.failWith f)

/-- How far a run comes: it is refused, or some phases are passed and the next one breaks off, or
all of them are passed. -/
inductive Progress (im : Importer) (job : ImportJob) : History → ImportJob → Prop where
  | refused {e : Job.ChangeError} {kept : Bool} (henter : job.advance .validating = .error e) :
      Progress im job [⟨.record (job.failWith (.unexpected .validation e.message)), kept⟩]
        (job.failWith (.unexpected .validation e.message))
  | broken {p : Phase} {job' result : ImportJob} {h h' : History}
      (hpasses : Passes im p.earlier job h job') (hbreaks : Breaks im p job' h' result) :
      Progress im job (h ++ h') result
  | finished {result : ImportJob} {h : History} (hpasses : Passes im Phase.all job h result) :
      Progress im job h result

/-! ### Passing phases -/

theorem Passes.append {ps' : List Phase} {h' : History} (hp : Passes im ps job h job')
    (hp' : Passes im ps' job' h' result) : Passes im (ps ++ ps') job (h ++ h') result := by
  induction hp with
  | start => exact hp'
  | step hpassage _ ih =>
    rw [List.append_assoc]
    exact .step hpassage (ih hp')

theorem Passes.split {ps' : List Phase} (hp : Passes im (ps ++ ps') job h result) :
    ∃ h₁ h₂ job', h = h₁ ++ h₂ ∧ Passes im ps job h₁ job' ∧ Passes im ps' job' h₂ result := by
  induction ps generalizing job h with
  | nil => exact ⟨[], h, job, rfl, .start job, hp⟩
  | cons p ps ih =>
    obtain _ | ⟨hpassage, hrest⟩ := hp
    obtain ⟨h₁, h₂, job', rfl, hfirst, hsecond⟩ := ih hrest
    exact ⟨_, h₂, job', (List.append_assoc ..).symm, .step hpassage hfirst, hsecond⟩

theorem Passage.status (hp : Passage im p job h job') : job'.status = p.done := by
  cases hp
  rfl

theorem Passage.sameTarget (hp : Passage im p job h job') : SameTarget job job' := by
  obtain ⟨hwork, hstamp⟩ := hp
  obtain ⟨-, executedAt, finalizedAt, rfl⟩ := stampEnd_cases hstamp
  obtain ⟨hid, hconnector, htable⟩ := (work_kept hwork).1.sameTarget
  exact ⟨hid, hconnector, htable⟩

theorem Passes.sameTarget (hp : Passes im ps job h result) : SameTarget job result := by
  induction hp with
  | start job => exact .refl job
  | step hpassage _ ih => exact hpassage.sameTarget.trans ih

theorem Passage.does (hp : Passage im p job h job') : Does p.verbs (sent h) := by
  obtain ⟨hwork, hstamp⟩ := hp
  simpa [Question.calls, (stampEnd_cases hstamp).1.sent] using work_does hwork

theorem Passes.does (hp : Passes im ps job h result) : Does (ps.flatMap Phase.verbs) (sent h) := by
  induction hp with
  | start => exact does_nil _
  | step hpassage _ ih =>
    rw [sent_append, List.flatMap_cons]
    exact (hpassage.does.mono fun v hv => List.mem_append_left _ hv).append
      (ih.mono fun v hv => List.mem_append_right _ hv)

theorem Breaks.does (hb : Breaks im p job h result) :
    Does (p.verbs ++ [.dropTrigger, .dropView]) (sent h) := by
  obtain ⟨hwork, hrelease⟩ := hb
  have hdone := (work_does hwork).mono fun v hv =>
    List.mem_append_left [Verb.dropTrigger, .dropView] hv
  have hdown := (does_release hrelease).mono fun v hv => List.mem_append_right p.verbs hv
  simpa [Question.calls] using hdone.append hdown

/-- A phase that is passed, with the job at every point of it. -/
theorem Passage.parts (hp : Passage im p job h job') :
    ∃ job₁ job₂ job₃ hw hs e e', h = [e] ++ (hw ++ (hs ++ [e'])) ∧ sent [e] = [] ∧ sent [e'] = [] ∧
      job₁ = { job with status := p.running } ∧ Answered (im.work p job₁) hw (job₂, .ok ()) ∧
      Answered (stampEnd p job₂) hs job₃ ∧ job' = { job₃ with status := p.done } := by
  obtain @⟨job₂, job₃, hw, hs, kept, kept', hwork, hstamp⟩ := hp
  exact ⟨_, job₂, job₃, hw, hs, _, _, rfl, rfl, rfl, rfl, hwork, hstamp, rfl⟩

/-- A phase that breaks off, with the job at every point of it.  The job has not ended before. -/
theorem Breaks.parts (hb : Breaks im p job h result) :
    ∃ job₁ job₂ f hw hr e e', h = [e] ++ (hw ++ (hr ++ [e'])) ∧ sent [e] = [] ∧ sent [e'] = [] ∧
      job₁ = { job with status := p.running } ∧ Answered (im.work p job₁) hw (job₂, .error f) ∧
      Answered (im.release p job₂ f) hr () ∧ job₂.status.isFinal = false ∧
      result = job₂.failWith f := by
  obtain @⟨job₂, f, hw, hr, kept, kept', hwork, hrelease⟩ := hb
  have hstatus : job₂.status = p.running := (work_kept hwork).1.status
  exact ⟨_, job₂, f, hw, hr, _, _, rfl, rfl, rfl, rfl, hwork, hrelease,
    hstatus ▸ p.running_open, rfl⟩

/-- A validation that is passed changes the uploads only. -/
theorem Passage.validated (hp : Passage im .validate job h job') :
    ∃ uploads, job' = { job with uploads := uploads, status := .validated } := by
  obtain ⟨hwork, hstamp⟩ := hp
  obtain ⟨uploads, ho⟩ := (validate_cases hwork).2
  obtain ⟨-, rfl⟩ := answered_pure.1 hstamp
  exact ⟨uploads, by simp_all [Phase.done]⟩

theorem stampEnd_execute (hp : Answered (stampEnd .execute job) h job') :
    ∃ time, h = [⟨.now, time⟩] ∧ job' = { job with executedAt := some time } := by
  obtain ⟨h₁, h₂, time, rfl, htime, hend⟩ := answered_andThen.1 hp
  obtain rfl := answered_query.1 htime
  obtain ⟨rfl, rfl⟩ := answered_pure.1 hend
  exact ⟨time, rfl, rfl⟩

theorem stampEnd_finalize (hp : Answered (stampEnd .finalize job) h job') :
    ∃ time, h = [⟨.now, time⟩] ∧ job' = { job with finalizedAt := some time } := by
  obtain ⟨h₁, h₂, time, rfl, htime, hend⟩ := answered_andThen.1 hp
  obtain rfl := answered_query.1 htime
  obtain ⟨rfl, rfl⟩ := answered_pure.1 hend
  exact ⟨time, rfl, rfl⟩

/-! ### The progress of a run -/

theorem canAdvanceTo_of_passes {done : List Phase} (hp : Passes im done job h job')
    (hdone : done ++ p :: ps = Phase.all) :
    done = [] ∨ job'.status.CanAdvanceTo p.running := by
  rcases List.eq_nil_or_concat done with rfl | ⟨done, q, rfl⟩
  · exact .inl rfl
  · rw [List.concat_eq_append] at hp hdone
    obtain ⟨h₁, h₂, job₁, rfl, -, hlast⟩ := hp.split
    obtain _ | ⟨hpassage, hnone⟩ := hlast
    cases hnone
    rw [hpassage.status]
    refine .inr (Phase.canAdvanceTo_running ?_)
    rw [← Phase.eq_earlier hdone, List.getLast?_concat]

theorem progress_of_course {done : List Phase} {start : ImportJob} {h₀ : History}
    (hc : Course im ps job h result) (hpasses : Passes im done start h₀ job)
    (hdone : done ++ ps = Phase.all) : Progress im start (h₀ ++ h) result := by
  induction hc generalizing done h₀ with
  | finished job =>
    rw [List.append_nil] at hdone ⊢
    exact .finished (hdone ▸ hpasses)
  | @refused p ps job e kept henter =>
    -- only the first phase can be refused
    rcases canAdvanceTo_of_passes hpasses hdone with rfl | hcan
    · cases hpasses
      obtain ⟨rfl, rfl⟩ := List.cons.inj hdone
      exact .refused henter
    · rw [advance_of_canAdvanceTo hcan] at henter
      cases henter
  | broken henter hwork hrelease =>
    obtain ⟨-, rfl⟩ := eq_of_advance henter
    obtain rfl := Phase.eq_earlier hdone
    exact .broken hpasses (.intro hwork hrelease)
  | @passed p ps job job₁ job₂ job₃ job₄ result hw hs hr kept kept' henter hwork hstamp hleave hrest
      ih =>
    obtain ⟨-, rfl⟩ := eq_of_advance henter
    obtain ⟨-, rfl⟩ := eq_of_advance hleave
    have hpassage := @Passage.intro im p job job₂ job₃ hw hs kept kept' hwork hstamp
    have hprogress := ih (hpasses.append (.step hpassage (.start _)))
      (by rw [List.append_assoc]; exact hdone)
    simpa using hprogress

/-- A run of a job that has not ended comes so far. -/
theorem progress_of_run (hjob : job.status.isFinal = false) (hp : Answered (im.run job) h result) :
    Progress im job h result :=
  progress_of_course (course_of_run hjob hp) (.start job) rfl

theorem Passes.status_finalized (hp : Passes im Phase.all job h result) :
    result.status = .finalized := by
  rw [← Phase.finalize.earlier_append_later] at hp
  obtain ⟨h₁, h₂, job₁, rfl, -, hlast⟩ := hp.split
  obtain _ | ⟨hpassage, hnone⟩ := hlast
  cases hnone
  exact hpassage.status

/-- A phase that breaks off ends the job without success. -/
theorem Breaks.isFailure (hb : Breaks im p job h result) : result.status.isFailure = true := by
  obtain ⟨job₁, job₂, f, hw, hr, e, e', -, -, -, -, -, -, hopen, rfl⟩ := hb.parts
  exact isFailure_failWith hopen f

/-- A run that does not end without success passes all phases. -/
theorem passes_of_run (hjob : job.status.isFinal = false) (hp : Answered (im.run job) h result)
    (hresult : result.status.isFailure = false) : Passes im Phase.all job h result := by
  cases progress_of_run hjob hp with
  | refused => rw [isFailure_failWith hjob] at hresult; cases hresult
  | broken _ hbreaks => rw [hbreaks.isFailure] at hresult; cases hresult
  | finished hpasses => exact hpasses

/-- A run at a phase that it comes to: the phases before it, its work, and what comes after it. -/
inductive Division (im : Importer) (p : Phase) (job : ImportJob) : History → Prop where
  | intro {job₁ : ImportJob} {o : Outcome} {before hw after : History} {kept : Bool}
      (hbefore : Passes im p.earlier job before job₁)
      (hwork : Answered (im.work p { job₁ with status := p.running }) hw o)
      (hafter : Does (p.later.flatMap Phase.verbs ++ [.dropTrigger, .dropView]) (sent after)) :
      Division im p job
        (before ++ ⟨.record { job₁ with status := p.running }, kept⟩ :: (hw ++ after))

theorem division_of_passage {h₁ h₂ after : History} {job₁ job₂ : ImportJob}
    (hbefore : Passes im p.earlier job h₁ job₁) (hp : Passage im p job₁ h₂ job₂)
    (hafter : Does (p.later.flatMap Phase.verbs ++ [.dropTrigger, .dropView]) (sent after)) :
    Division im p job (h₁ ++ (h₂ ++ after)) := by
  obtain @⟨job₂, job₃, hw, hs, kept, kept', hwork, hstamp⟩ := hp
  have hrest : Does (p.later.flatMap Phase.verbs ++ [.dropTrigger, .dropView])
      (sent (hs ++ ⟨.record { job₃ with status := p.done }, kept'⟩ :: after)) := by
    simpa [Question.calls, (stampEnd_cases hstamp).1.sent] using hafter
  simpa using @Division.intro im p job job₁ _ h₁ hw _ kept hbefore hwork hrest

theorem mem_verbs {q : Phase} {v : Verb} (hq : q ∈ ps) (hv : v ∈ q.verbs) :
    v ∈ ps.flatMap Phase.verbs ++ [.dropTrigger, .dropView] :=
  List.mem_append_left _ (List.mem_flatMap.2 ⟨q, hq, hv⟩)

theorem Passes.does_of_subset {qs : List Phase} (hp : Passes im ps job h result)
    (hsub : ∀ q ∈ ps, q ∈ qs) :
    Does (qs.flatMap Phase.verbs ++ [.dropTrigger, .dropView]) (sent h) := by
  refine hp.does.mono fun v hv => ?_
  obtain ⟨q, hq, hv⟩ := List.mem_flatMap.1 hv
  exact mem_verbs (hsub q hq) hv

theorem Breaks.does_of_mem {qs : List Phase} (hb : Breaks im p job h result) (hp : p ∈ qs) :
    Does (qs.flatMap Phase.verbs ++ [.dropTrigger, .dropView]) (sent h) := by
  refine hb.does.mono fun v hv => ?_
  rcases List.mem_append.1 hv with hv | hv
  · exact mem_verbs hp hv
  · exact List.mem_append_right _ hv

/-- A run stops before a phase, or can be divided there. -/
theorem Progress.divided (hp : Progress im job h result) (p : Phase) :
    Does (p.earlier.flatMap Phase.verbs ++ [.dropTrigger, .dropView]) (sent h) ∨
      Division im p job h := by
  cases hp with
  | refused => exact .inl (does_nil _)
  | @broken q job' result h h' hpasses hbreaks =>
    rcases p.order q with ⟨between, hq⟩ | rfl | ⟨between, hq, hlater⟩
    · refine .inl ?_
      rw [sent_append, hq]
      exact (hpasses.does_of_subset (by simp_all)).append (hbreaks.does_of_mem (by simp))
    · obtain ⟨hwork, hrelease⟩ := hbreaks
      refine .inr (.intro hpasses hwork ?_)
      simpa [Question.calls] using
        (does_release hrelease).mono fun v hv => List.mem_append_right _ hv
    · rw [hq] at hpasses
      obtain ⟨h₁, h₂, job₁, rfl, hearlier, hrest⟩ := hpasses.split
      obtain _ | ⟨hpassage, hbetween⟩ := hrest
      rw [List.append_assoc, List.append_assoc]
      refine .inr (division_of_passage hearlier hpassage ?_)
      rw [sent_append]
      exact (hbetween.does_of_subset fun r hr => hlater r (List.mem_append_left _ hr)).append
        (hbreaks.does_of_mem (hlater q (by simp)))
  | finished hpasses =>
    rw [← p.earlier_append_later] at hpasses
    obtain ⟨h₁, h₂, job₁, rfl, hearlier, hrest⟩ := hpasses.split
    obtain _ | ⟨hpassage, hlater⟩ := hrest
    exact .inr (division_of_passage hearlier hpassage (hlater.does_of_subset fun _ hq => hq))

end Importer

end BulkImport.Import
