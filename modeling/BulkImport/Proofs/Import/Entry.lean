import BulkImport.Proofs.Import.Course

/-!
# How a run enters its table

Before anything is done to its table, a run looks for it once and claims it once.  What follows is
settled by the answer to the claim (`Fate`): with an error nothing more is sent, another version
than the first one turns the run away, and only the first one admits it (`entry_of_run`).  From then
on no failure counts as found before a change (`Course.status_ne_aborted`).  So a run that is
aborted has sent at most the look for the table and a claim that did not give the first version
(`sent_of_aborted`).
-/

namespace BulkImport.Import

open BulkImport.Job BulkImport.Sql BulkImport.Table BulkImport.Program
open BulkImport.ImportJob
  (eq_of_advance failWith_status status_failWith failWith_spaceVersion setSpaceVersion_attempted)

namespace Importer

variable {im : Importer} {job job₁ result : ImportJob} {h : History}

/-! ### Which failures abort a job -/

theorem failWith_ne_aborted {f : Failure} (hjob : job.status ≠ .aborted)
    (hf : f.isPrecondition = false) : (job.failWith f).status ≠ .aborted := by
  rw [failWith_status]
  split
  · exact hjob
  · simp [ImportJob.failureStatus, hf]

theorem running_ne_aborted (p : Phase) : p.running ≠ .aborted := by cases p <;> decide

theorem done_ne_aborted (p : Phase) : p.done ≠ .aborted := by cases p <;> decide

/-- The phases in which a table is worked on that was claimed. -/
def Late (p : Phase) : Prop := p = .execute ∨ p = .finalize

theorem work_failure {p : Phase} {job' : ImportJob} {f : Failure} (hlate : Late p)
    (hp : Answered (im.work p job) h (job', .error f)) : f.isPrecondition = false := by
  rcases hlate with rfl | rfl
  · exact (execute_calls hp).2.2.2 f rfl
  · exact finalize_failure hp

/-- Once a table was claimed, a job is no longer aborted. -/
theorem Course.status_ne_aborted {ps : List Phase} (hc : Course im ps job h result)
    (hlate : ∀ p ∈ ps, Late p) (hjob : job.status ≠ .aborted) : result.status ≠ .aborted := by
  induction hc with
  | finished job => exact hjob
  | @refused p ps job e kept henter =>
    refine failWith_ne_aborted hjob (isPrecondition_unexpected ?_ _)
    rcases hlate p List.mem_cons_self with rfl | rfl <;> decide
  | @broken p ps job job₁ job₂ f h h' kept kept' henter hwork hrelease =>
    obtain ⟨-, rfl⟩ := eq_of_advance henter
    refine failWith_ne_aborted ?_ (work_failure (hlate p List.mem_cons_self) hwork)
    rw [(work_kept hwork).1.status]
    exact running_ne_aborted p
  | @passed p ps job job₁ job₂ job₃ job₄ result h h' h'' kept kept' henter hwork hstamp hleave
      hrest ih =>
    refine ih (fun q hq => hlate q (List.mem_cons_of_mem p hq)) ?_
    rw [(eq_of_advance hleave).2]
    exact done_ne_aborted p

/-! ### The claim and what follows it -/

/-- Nothing is claimed in a history. -/
def Unclaiming (h : History) : Prop := ∀ call ∈ sent h, call.verb? ≠ some .claim

theorem unclaiming_append {h h' : History} :
    Unclaiming (h ++ h') ↔ Unclaiming h ∧ Unclaiming h' := by
  simp only [Unclaiming, sent_append, List.mem_append, or_imp, forall_and]

theorem unclaiming_of_does {verbs : List Verb} (hdoes : Does verbs (sent h))
    (hverbs : .claim ∉ verbs) : Unclaiming h := hdoes.verb_ne hverbs

theorem unclaiming_of_silent (hsilent : sent h = []) : Unclaiming h := by
  simp [Unclaiming, hsilent]

/-- What becomes of a run after its claim was answered: with an error it is silent, another version
than the first one turns it away, and the first one admits it for good. -/
inductive Fate (job : ImportJob) :
    Except Database.Error Int64 → History → ImportJob → Prop where
  | unanswered {e : Database.Error} {after : History} {result : ImportJob}
      (hsilent : sent after = []) (hstatus : result.status = .failed) :
      Fate job (.error e) after result
  | turnedAway {v : Int64} {after : History} {result : ImportJob} (hv : v ≠ freshVersion)
      (hsilent : sent after = []) (hstatus : result.status = .aborted)
      (hdescription : result.errorDescription = some .sequenceNotZero)
      (hversion : job.spaceVersion = none → result.spaceVersion = some v) :
      Fate job (.ok v) after result
  | admitted {after : History} {result : ImportJob}
      (hclaims : Unclaiming after) (hstatus : result.status ≠ .aborted) :
      Fate job (.ok freshVersion) after result

/-- How a run comes to a claim: it sends nothing but these calls, or these before its one claim. -/
inductive Entry (im : Importer) (job : ImportJob) (calls : List Call) :
    History → ImportJob → Prop where
  | unclaimed {h : History} {result : ImportJob} (hsent : sent h = calls) :
      Entry im job calls h result
  | claimed {c : String} {t : Identifier} {s : Statement} {a : Except Database.Error Int64}
      {before after : History} {result : ImportJob} (haims : Aims job c t)
      (hs : claimStatement im.settings.schema t = .ok s) (hbefore : sent before = calls)
      (hfate : Fate job a after result) :
      Entry im job calls (before ++ ⟨.fetchInteger c s, a⟩ :: after) result

/-- What went before a claim may go before more. -/
theorem Entry.prepend {calls : List Call} {earlier : History}
    (hentry : Entry im job [] h result) (hsent : sent earlier = calls) :
    Entry im job calls (earlier ++ h) result := by
  cases hentry with
  | unclaimed hsilent => exact .unclaimed (by simp [hsent, hsilent])
  | claimed haims hs hbefore hfate =>
    rw [← List.append_assoc]
    exact .claimed haims hs (by simp [hsent, hbefore]) hfate

theorem Aims.sameTarget {c : String} {t : Identifier} (haims : Aims job₁ c t)
    (hsame : SameTarget job job₁) : Aims job c t :=
  ⟨hsame.connector ▸ haims.connector, hsame.table ▸ haims.table⟩

/-- A job aims at one table. -/
theorem Aims.unique {c c' : String} {t t' : Identifier} (haims : Aims job c t)
    (haims' : Aims job c' t') : c' = c ∧ t' = t :=
  ⟨Option.some.inj (haims'.connector.symm.trans haims.connector),
    eq_of_hasTable haims.table haims'.table⟩

/-- Nothing is released for a job that has not the first space version, or that is aborted. -/
theorem release_silent {p : Phase} {f : Failure} (hjob : job.status.isFinal = false)
    (hclean : job.spaceVersion ≠ some freshVersion ∨ (job.failWith f).status = .aborted)
    (hp : Answered (im.release p job f) h ()) : h = [] := by
  have hkeep : mustRelease p job f = false := by
    rcases hclean with hversion | haborted
    · simp [mustRelease, hversion]
    · rw [status_failWith hjob, ImportJob.failureStatus] at haborted
      simp_all [mustRelease]
  rcases release_cases hp with ⟨-, rfl⟩ | ⟨hmust, -⟩
  · rfl
  · rw [hkeep] at hmust
    cases hmust

/-- A job that is turned away is aborted, says why, and shows the version that it met. -/
theorem turnedAway_of_notFresh {v : Int64} {after : History} (hv : v ≠ freshVersion)
    (hopen : job₁.status.isFinal = false) (hversion : job₁.spaceVersion = job.spaceVersion)
    (hsilent : sent after = []) :
    Fate job (.ok v) after
      (((job₁.setSpaceVersion v).toOption.getD job₁).failWith (.sequenceNotZero v)) := by
  rw [setSpaceVersion_attempted]
  refine .turnedAway hv hsilent ?_ rfl fun hnone => ?_
  · rw [failWith_status, if_neg (by simp [hopen])]
    rfl
  · rw [failWith_spaceVersion, hversion, hnone, Option.none_or]

/-- A claim that follows the record of a preparation and the look-up of its connector. -/
theorem entry_of_claim {c : String} {t : Identifier} {s : Statement} {j : ImportJob} {kept : Bool}
    {a : Except Database.Error Int64} {after : History} (haims : Aims job c t)
    (hs : claimStatement im.settings.schema t = .ok s) (hfate : Fate job a after result) :
    Entry im job []
      (⟨.record j, kept⟩ :: ⟨.connect c, .ok ()⟩ :: ⟨.fetchInteger c s, a⟩ :: after) result :=
  @Entry.claimed im job [] c t s a [⟨.record j, kept⟩, ⟨.connect c, .ok ()⟩] after result haims hs
    rfl hfate

theorem unclaiming_of_install {c : String} {t : Identifier} {v : Int64} {r : Except Failure Unit}
    (hp : Answered (im.install job c t v).run h r) : Unclaiming h :=
  unclaiming_of_does (does_install hp) (by decide)

/-- A preparation that breaks off.  Until the first version is there, nothing is released. -/
theorem entry_of_broken {entered job₂ : ImportJob} {f : Failure} {hw hr : History}
    {kept kept' : Bool} (hsame : SameTarget job entered)
    (hversion : entered.spaceVersion = job.spaceVersion) (hstatus : entered.status = .preparing)
    (hwork : Answered (im.prepare entered) hw (job₂, .error f))
    (hrelease : Answered (im.release .prepare job₂ f) hr ())
    (hclean : job.spaceVersion ≠ some freshVersion ∨ (job₂.failWith f).status = .aborted) :
    Entry im job []
      (⟨.record entered, kept⟩ :: (hw ++ (hr ++ [⟨.record (job₂.failWith f), kept'⟩])))
      (job₂.failWith f) := by
  have hprepared := prepare_cases hwork
  have hstatus₂ : job₂.status = .preparing := (kept_of_prepared hprepared).1.status.trans hstatus
  have hopen : job₂.status.isFinal = false := by simp [hstatus₂, Job.Status.isFinal]
  have hsilent : job₂.spaceVersion = job.spaceVersion → hr = [] := fun hunset =>
    release_silent hopen (hunset ▸ hclean) hrelease
  have hdown : Unclaiming (hr ++ [⟨.record (job₂.failWith f), kept'⟩]) :=
    unclaiming_append.2 ⟨unclaiming_of_does (does_release hrelease) (by decide),
      unclaiming_of_silent rfl⟩
  have hlasting : f.isPrecondition = false → (job₂.failWith f).status ≠ .aborted :=
    failWith_ne_aborted (by simp [hstatus₂])
  cases hprepared with
  | lost htarget =>
    obtain rfl := hsilent hversion
    exact .unclaimed (by simp [Question.calls, (sends_target htarget).sent])
  | unclaimable =>
    obtain rfl := hsilent hversion
    exact .unclaimed rfl
  | refused hconnector htable hs =>
    obtain rfl := hsilent hversion
    have hfailed := not_isPrecondition_of_database
    exact entry_of_claim (.sameTarget ⟨hconnector, htable⟩ hsame) hs
      (.unanswered rfl (by simp [status_failWith hopen, ImportJob.failureStatus, hfailed]))
  | notFresh hconnector htable hs hv =>
    obtain rfl := release_silent hopen (.inr (status_failWith hopen _)) hrelease
    exact entry_of_claim (.sameTarget ⟨hconnector, htable⟩ hsame) hs
      (turnedAway_of_notFresh hv (by simp [hstatus, Job.Status.isFinal]) hversion rfl)
  | versionKept hconnector htable hs =>
    exact entry_of_claim (.sameTarget ⟨hconnector, htable⟩ hsame) hs
      (.admitted hdown (hlasting rfl))
  | installed hconnector htable hs _ hinstall =>
    exact entry_of_claim (.sameTarget ⟨hconnector, htable⟩ hsame) hs
      (.admitted (unclaiming_append.2 ⟨unclaiming_of_install hinstall, hdown⟩)
        (hlasting ((install_calls hinstall).2 f rfl)))

/-- The phases that follow a claim claim nothing. -/
theorem Course.unclaiming {ps : List Phase} (hc : Course im ps job h result)
    (hlate : ∀ p ∈ ps, Late p) : Unclaiming h := by
  refine unclaiming_of_does hc.does fun hclaim => ?_
  simp only [List.mem_append, List.mem_flatMap] at hclaim
  rcases hclaim with ⟨p, hp, hclaim⟩ | hclaim
  · rcases hlate p hp with rfl | rfl <;> exact absurd hclaim (by decide)
  · exact absurd hclaim (by decide)

theorem late_after_prepare : ∀ p ∈ [Phase.execute, Phase.finalize], Late p := by
  simp [Late]

/-- How the preparation of a run goes, with all that comes after it. -/
theorem entry_of_preparation (hc : Course im [.prepare, .execute, .finalize] job₁ h result)
    (hsame : SameTarget job job₁) (hversion : job₁.spaceVersion = job.spaceVersion)
    (hclean : job.spaceVersion ≠ some freshVersion ∨ result.status = .aborted) :
    Entry im job [] h result := by
  cases hc with
  | refused => exact .unclaimed rfl
  | broken henter hwork hrelease =>
    obtain ⟨-, rfl⟩ := eq_of_advance henter
    exact entry_of_broken (hsame.trans ⟨rfl, rfl, rfl⟩) hversion rfl hwork hrelease hclean
  | @passed _ _ _ entered job₂ job₃ job₄ _ hw hs hr kept kept' henter hwork hstamp hleave hrest =>
    have hentered : SameTarget job entered := by
      rw [(eq_of_advance henter).2]
      exact hsame.trans ⟨rfl, rfl, rfl⟩
    have hlasting : result.status ≠ .aborted := by
      refine hrest.status_ne_aborted late_after_prepare ?_
      rw [(eq_of_advance hleave).2]
      exact done_ne_aborted .prepare
    cases prepare_cases hwork with
    | installed hconnector htable hclaim _ hinstall =>
      refine entry_of_claim (.sameTarget ⟨hconnector, htable⟩ hentered) hclaim
        (.admitted (unclaiming_append.2 ⟨unclaiming_of_install hinstall,
          unclaiming_append.2 ⟨unclaiming_of_silent (stampEnd_cases hstamp).1.sent, ?_⟩⟩) hlasting)
      exact hrest.unclaiming late_after_prepare

/-- A validation that was passed has looked for the table, and changed no more than the uploads. -/
theorem validation_passed {job₂ job₃ job₄ : ImportJob} {hw hs : History}
    (henter : job.advance Phase.validate.running = .ok job₁)
    (hwork : Answered (im.validate job₁) hw (job₂, .ok ()))
    (hstamp : Answered (stampEnd .validate job₂) hs job₃)
    (hleave : job₃.advance Phase.validate.done = .ok job₄) :
    SameTarget job job₄ ∧ job₄.spaceVersion = job.spaceVersion ∧ sent hs = [] ∧
      ∃ c t, Aims job c t ∧ sent hw = [⟨c, existsStatement im.settings.schema t⟩] := by
  obtain ⟨-, rfl⟩ := eq_of_advance henter
  obtain ⟨-, rfl⟩ := eq_of_advance hleave
  obtain ⟨hsilent, _, _, rfl⟩ := stampEnd_cases hstamp
  obtain ⟨⟨-, f, hf⟩ | ⟨c, t, haims, hsends⟩, uploads, rfl⟩ := validate_cases hwork
  · cases hf
  · exact ⟨⟨rfl, rfl, rfl⟩, rfl, hsilent.sent, c, t, ⟨haims.connector, haims.table⟩, hsends.sent⟩

/-- A run looks for its table, if it finds out where that is, and then claims it, if it gets so
far. -/
theorem entry_of_run (hjob : job.status.isFinal = false) (hp : Answered (im.run job) h result)
    (hclean : job.spaceVersion ≠ some freshVersion ∨ result.status = .aborted) :
    sent h = [] ∨ ∃ c t, Aims job c t ∧
      Entry im job [⟨c, existsStatement im.settings.schema t⟩] h result := by
  cases course_of_run hjob hp with
  | refused => exact .inl rfl
  | @broken _ _ _ job₁ job₂ f hw hr kept kept' henter hwork hrelease =>
    obtain ⟨-, rfl⟩ := eq_of_advance henter
    -- a failed validation leaves no facade
    have hreleased : hr = [] := by
      rcases release_cases hrelease with ⟨-, rfl⟩ | ⟨hmust, -⟩
      · rfl
      · cases hmust
    subst hreleased
    obtain ⟨⟨hsends, -⟩ | ⟨c, t, haims, hsends⟩, -⟩ := validate_cases hwork
    · exact .inl (by simp [Question.calls, hsends.sent])
    · exact .inr ⟨c, t, ⟨haims.connector, haims.table⟩, .unclaimed
        (by simp [Question.calls, hsends.sent])⟩
  | @passed _ _ _ job₁ job₂ job₃ job₄ _ hw hs hr kept kept' henter hwork hstamp hleave hrest =>
    obtain ⟨hsame, hversion, hsilent, c, t, haims, hprobe⟩ :=
      validation_passed henter hwork hstamp hleave
    have hentry := (entry_of_preparation hrest hsame hversion hclean).prepend
      (show sent (⟨.record job₁, kept⟩ :: (hw ++ (hs ++ [⟨.record job₄, kept'⟩]))) = _ by
        simp [Question.calls, hprobe, hsilent]; rfl)
    refine .inr ⟨c, t, haims, ?_⟩
    simpa using hentry

/-- A run that is aborted has looked for its table at most, and then claimed it at most, with an
answer that was not the first version. -/
theorem sent_of_aborted (hjob : job.status.isFinal = false) (hp : Answered (im.run job) h result)
    (haborted : result.status = .aborted) :
    Does [.probe, .claim] (sent h) ∧
      (sent h = [] ∨ ∃ c t, Aims job c t ∧
        (sent h = [⟨c, existsStatement im.settings.schema t⟩] ∨
          ∃ s v, claimStatement im.settings.schema t = .ok s ∧ v ≠ freshVersion ∧
            sent h = [⟨c, existsStatement im.settings.schema t⟩, ⟨c, s⟩] ∧
            ⟨.fetchInteger c s, .ok v⟩ ∈ h)) := by
  rcases entry_of_run hjob hp (.inr haborted) with hsilent | ⟨c, t, haims, hentry⟩
  · rw [hsilent]
    exact ⟨does_nil _, .inl rfl⟩
  have hprobe : Does [.probe, .claim] [⟨c, existsStatement im.settings.schema t⟩] :=
    does_singleton (by decide) (verb_exists _ _)
  cases hentry with
  | unclaimed hsent =>
    rw [hsent]
    exact ⟨hprobe, .inr ⟨c, t, haims, .inl rfl⟩⟩
  | claimed haims' hs hbefore hfate =>
    obtain ⟨rfl, rfl⟩ := haims.unique haims'
    -- of the three fates only being turned away aborts a job
    cases hfate with
    | unanswered _ hfailed =>
      rw [haborted] at hfailed
      cases hfailed
    | admitted _ hlasting => exact absurd haborted hlasting
    | turnedAway hv hsilent =>
      simp only [sent_append, sent_cons, hbefore, hsilent, List.append_nil, Question.calls]
      exact ⟨hprobe.append (does_singleton (by decide) (verb_claimed hs)),
        .inr ⟨_, _, haims, .inr ⟨_, _, hs, hv, rfl, by simp⟩⟩⟩

/-- Everything goes as it should, but the table was written to before. -/
def secondVersion : (q : Question) → Answer q
  | .fetchInteger _ s => if Verb.of? s = some .claim then .ok 2 else .ok 1
  | q => oblige q

/-- Of an import of roads that were written to before, two statements are sent. -/
theorem roads_turned_away :
    ((viewImporter.run roadsJob).carryOut secondVersion).2.status = .aborted ∧
      (sent ((viewImporter.run roadsJob).carryOut secondVersion).1).length = 2 ∧
      Does [.probe, .claim] (sent ((viewImporter.run roadsJob).carryOut secondVersion).1) :=
  ⟨by decide +kernel, by decide +kernel,
    (sent_of_aborted (by decide) (answered_carryOut secondVersion _) (by decide +kernel)).1⟩

end Importer

end BulkImport.Import
