import BulkImport.Proofs.Import.Course

/-!
# What follows a failed claim

Whether the facade is taken down after a failed preparation is read off the space version that the
job has by then.  A claim that fails sets none, so what follows it is decided by the version that
the job came with: nothing is sent to a table that was not claimed, unless the job came with the
first version.  Then the facade of that table is taken down, which this run did not put up
(`sent_after_failed_claim`).
-/

namespace BulkImport.Import

open BulkImport.Job BulkImport.Sql BulkImport.Table BulkImport.Program
open BulkImport.ImportJob (eq_of_advance)

namespace Importer

variable {im : Importer} {job : ImportJob} {c : String} {t : Identifier}

/-- The claim of the target of a job failed in a history, and this came after it: the statement of
the claim could not be built once the target was found, or it was answered with an error. -/
inductive FailedClaim (im : Importer) (job : ImportJob) (c : String) (t : Identifier) :
    History → History → Prop where
  | unbuildable {before after : History} {j : ImportJob} {kept : Bool} {f : Failure}
      (ht : job.targetTable = some t.text) (hf : claimStatement im.settings.schema t = .error f)
      (hj : j.status = .preparing) :
      FailedClaim im job c t (before ++ ⟨.record j, kept⟩ :: ⟨.connect c, .ok ()⟩ :: after) after
  | refused {before after : History} {s : Statement} {e : Database.Error}
      (ht : job.targetTable = some t.text) (hs : claimStatement im.settings.schema t = .ok s) :
      FailedClaim im job c t (before ++ ⟨.fetchInteger c s, .error e⟩ :: after) after

/-! ### The one preparation of a run -/

/-- An exchange that sends a claim. -/
def Claims (e : Exchange Question Answer) : Prop :=
  ∃ call ∈ e.question.calls, call.verb? = some .claim

/-- An exchange that records a job in preparation. -/
def Prepares (e : Exchange Question Answer) : Prop :=
  ∃ j, e.question = .record j ∧ j.status = .preparing

/-- Nothing is claimed in a history, and no job is recorded in preparation. -/
structure Idle (h : History) : Prop where
  calls : ∀ call ∈ sent h, call.verb? ≠ some .claim
  records : ∀ j ∈ recorded h, j.status ≠ .preparing

theorem not_claims {h : History} (hcalls : ∀ call ∈ sent h, call.verb? ≠ some .claim) :
    ∀ e ∈ h, ¬ Claims e := by
  rintro e he ⟨call, hcall, hverb⟩
  exact hcalls call (mem_sent he hcall) hverb

theorem not_prepares {h : History} (hrecords : ∀ j ∈ recorded h, j.status ≠ .preparing) :
    ∀ e ∈ h, ¬ Prepares e := by
  rintro ⟨q, a⟩ he ⟨j, hq, hj⟩
  subst hq
  exact hrecords j (List.mem_filterMap.2 ⟨_, he, rfl⟩) hj

namespace Idle

variable {h h' : History}

theorem append (hi : Idle h) (hi' : Idle h') : Idle (h ++ h') := by
  constructor
  · intro call hcall
    rw [sent_append] at hcall
    exact (List.mem_append.1 hcall).elim (hi.calls call) (hi'.calls call)
  · intro j hj
    rw [recorded_append] at hj
    exact (List.mem_append.1 hj).elim (hi.records j) (hi'.records j)

theorem claims (hi : Idle h) : ∀ e ∈ h, ¬ Claims e := not_claims hi.calls

theorem prepares (hi : Idle h) : ∀ e ∈ h, ¬ Prepares e := not_prepares hi.records

end Idle

theorem idle_of_does {h : History} {verbs : List Verb} (hd : Does verbs (sent h))
    (hverbs : .claim ∉ verbs) (hr : recorded h = []) : Idle h := by
  refine ⟨hd.verb_ne hverbs, fun j hj => ?_⟩
  rw [hr] at hj
  cases hj

theorem idle_record {j : ImportJob} {kept : Bool} (hj : j.status ≠ .preparing) :
    Idle [⟨.record j, kept⟩] := by
  refine ⟨fun call hcall => absurd hcall List.not_mem_nil, fun j' hj' => ?_⟩
  obtain rfl := List.mem_singleton.1 hj'
  exact hj

theorem idle_failWith (job : ImportJob) (f : Failure) (kept : Bool) :
    Idle [⟨.record (job.failWith f), kept⟩] := by
  refine idle_record fun hstatus => ?_
  have hfinal := (failWith_sameTarget job f).2
  rw [hstatus] at hfinal
  cases hfinal

/-- How a run comes to its preparation, and how this goes. -/
inductive Approach (im : Importer) (job : ImportJob) : History → Prop where
  | never {h : History} (hidle : Idle h) : Approach im job h
  | broken {before hw hr : History} {job₁ job₂ : ImportJob} {f : Failure} {kept kept' : Bool}
      (hbefore : Idle before) (hstatus : job₁.status = .preparing) (hsame : SameTarget job job₁)
      (hversion : job₁.spaceVersion = job.spaceVersion)
      (hwork : Answered (im.prepare job₁) hw (job₂, .error f))
      (hrelease : Answered (im.release .prepare job₂ f) hr ()) :
      Approach im job
        (before ++ ⟨.record job₁, kept⟩ :: (hw ++ (hr ++ [⟨.record (job₂.failWith f), kept'⟩])))
  | passed {before hw rest : History} {job₁ job₂ : ImportJob} {kept : Bool}
      (hbefore : Idle before) (hstatus : job₁.status = .preparing) (hsame : SameTarget job job₁)
      (hwork : Answered (im.prepare job₁) hw (job₂, .ok ())) (hrest : Idle rest) :
      Approach im job (before ++ ⟨.record job₁, kept⟩ :: (hw ++ rest))

/-- Phases other than the preparation claim nothing and do not prepare. -/
theorem idle_of_course {ps : List Phase} {result : ImportJob} {h : History}
    (hc : Course im ps job h result) (hps : ps <:+ Phase.all) (hne : ps ≠ [])
    (hprepare : .prepare ∉ ps) : Idle h := by
  obtain ⟨earlier, hrecorded, -, hfinal, hearlier⟩ := hc.recorded hps hne
  constructor
  · refine hc.does.verb_ne fun hclaim => ?_
    simp only [List.mem_append, List.mem_flatMap] at hclaim
    rcases hclaim with ⟨p, hp, hclaim⟩ | hclaim
    · cases p with
      | prepare => exact hprepare hp
      | validate | execute | finalize => exact absurd hclaim (by decide)
    · exact absurd hclaim (by decide)
  · intro j hj hstatus
    rw [hrecorded] at hj
    rcases List.mem_append.1 hj with hj | hj
    · obtain ⟨-, -, p, hp, hrunning | hdone⟩ := hearlier j hj
      · cases p with
        | prepare => exact hprepare hp
        | validate | execute | finalize => cases hstatus.symm.trans hrunning
      · cases p <;> cases hstatus.symm.trans hdone
    · obtain rfl := List.mem_singleton.1 hj
      rw [hstatus] at hfinal
      cases hfinal

theorem approach_of_run {result : ImportJob} {h : History} (hjob : job.status.isFinal = false)
    (hp : Answered (im.run job) h result) : Approach im job h := by
  cases course_of_run hjob hp with
  | refused henter => exact .never (idle_failWith _ _ _)
  | @broken _ _ _ job₁ job₂ f hw hr kept kept' henter hwork hrelease =>
    obtain ⟨-, rfl⟩ := eq_of_advance henter
    have hentered : Idle [⟨.record { job with status := Phase.validate.running }, kept⟩] :=
      idle_record (by simp [Phase.running])
    have hworked := idle_of_does (work_does hwork) (by decide) (work_kept hwork).2
    have hreleased := idle_of_does (does_release hrelease) (by decide) (release_unrecorded hrelease)
    exact .never (hentered.append (hworked.append (hreleased.append (idle_failWith _ _ _))))
  | @passed _ _ _ job₁ job₂ job₃ job₄ _ hw hs hr kept kept' henter hwork hstamp hleave hrest =>
    obtain ⟨-, rfl⟩ := eq_of_advance henter
    obtain ⟨-, hjob₄⟩ := eq_of_advance hleave
    obtain ⟨⟨hsilent, hquiet⟩, _, _, rfl⟩ := stampEnd_cases hstamp
    obtain ⟨-, uploads, rfl⟩ := validate_calls hwork
    have hentered : Idle [⟨.record { job with status := Phase.validate.running }, kept⟩] :=
      idle_record (by simp [Phase.running])
    have hworked := idle_of_does (work_does hwork) (by decide) (work_kept hwork).2
    have hstamped : Idle hs := ⟨by simp [hsilent], by simp [hquiet]⟩
    have hleft : Idle [⟨.record job₄, kept'⟩] := idle_record (by simp [hjob₄, Phase.done])
    have hbefore := hentered.append (hworked.append (hstamped.append hleft))
    have hshape : ⟨.record { job with status := Phase.validate.running }, kept⟩ ::
        (hw ++ (hs ++ ⟨.record job₄, kept'⟩ :: hr)) =
        ([⟨.record { job with status := Phase.validate.running }, kept⟩] ++
          (hw ++ (hs ++ [⟨.record job₄, kept'⟩]))) ++ hr := by
      simp
    rw [hshape]
    cases hrest with
    | refused =>
      exact .never (hbefore.append (idle_failWith _ _ _))
    | broken henter' hwork' hrelease' =>
      obtain ⟨-, rfl⟩ := eq_of_advance henter'
      subst hjob₄
      exact .broken hbefore rfl ⟨rfl, rfl, rfl⟩ rfl hwork' hrelease'
    | @passed _ _ _ _ _ _ job₄' _ _ hs' hr' _ kept₂ henter' hwork' hstamp' hleave' hrest' =>
      obtain ⟨-, rfl⟩ := eq_of_advance henter'
      obtain ⟨-, hjob₄'⟩ := eq_of_advance hleave'
      obtain ⟨⟨hsilent', hquiet'⟩, -⟩ := stampEnd_cases hstamp'
      have hstamped' : Idle hs' := ⟨by simp [hsilent'], by simp [hquiet']⟩
      have hleft' : Idle [⟨.record job₄', kept₂⟩] := idle_record (by simp [hjob₄', Phase.done])
      have hlater := idle_of_course hrest' (by decide) (by decide) (by decide)
      subst hjob₄
      exact .passed hbefore rfl ⟨rfl, rfl, rfl⟩ hwork' (hstamped'.append (hleft'.append hlater))

/-! ### What is sent after it -/

/-- The one claim of a run. -/
theorem claim_unique {before before' after rest : History} {c' : String} {s s' : Statement}
    {e : Database.Error} {a : Except Database.Error Int64} {j : ImportJob} {kept : Bool}
    (hbefore : Idle before') (hrest : ∀ e ∈ rest, ¬ Claims e)
    (hs : claimStatement im.settings.schema t = .ok s)
    (h : before ++ ⟨.fetchInteger c s, .error e⟩ :: after =
      before' ++ ⟨.record j, kept⟩ :: ⟨.connect c', .ok ()⟩ :: ⟨.fetchInteger c' s', a⟩ :: rest) :
    (⟨.fetchInteger c s, .error e⟩ : Exchange Question Answer) = ⟨.fetchInteger c' s', a⟩ ∧
      after = rest := by
  have hclaims : Claims ⟨.fetchInteger c s, .error e⟩ :=
    ⟨⟨c, s⟩, List.mem_singleton_self _, verb_claimed hs⟩
  -- what comes before the claim of the preparation claims nothing either
  have hfirst : ∀ e ∈ before' ++ [⟨.record j, kept⟩, ⟨.connect c', .ok ()⟩], ¬ Claims e := by
    intro e he
    rcases List.mem_append.1 he with he | he
    · exact hbefore.claims e he
    · rintro ⟨call, hcall, -⟩
      simp only [List.mem_cons, List.not_mem_nil, or_false] at he
      rcases he with rfl | rfl <;> cases hcall
  have hshape : (before' ++ [⟨.record j, kept⟩, ⟨.connect c', .ok ()⟩]) ++
      ⟨.fetchInteger c' s', a⟩ :: rest = before ++ ⟨.fetchInteger c s, .error e⟩ :: after := by
    rw [h, List.append_assoc]
    rfl
  exact (split_unique hfirst hrest hclaims hshape).2

theorem not_prepares_of_unrecorded {h : History} (hr : recorded h = []) :
    ∀ e ∈ h, ¬ Prepares e :=
  not_prepares fun _ hj => absurd (hr ▸ hj) List.not_mem_nil

theorem not_claims_of_install {v : Int64} {h : History} {r : Except Failure Unit}
    (hp : Answered (im.install job c t v).run h r) : ∀ e ∈ h, ¬ Claims e :=
  not_claims ((does_install hp).verb_ne (by decide))

/-- A release finds no target in a job that names no connector. -/
theorem release_of_no_connector {p : Phase} {f : Failure} {h : History}
    (hc : job.targetConnector = none) (hp : Answered (im.release p job f) h ()) : h = [] := by
  have htarget : ∀ {h r}, Answered (target .finalization job).run h r →
      h = [] ∧ ∃ f, r = .error f := by
    intro h r hp
    cases sought_of_answered hp with
    | noConnector => exact ⟨rfl, _, rfl⟩
    | unknown hc' | noTable hc' | misnamed hc' | found hc' =>
      rw [hc] at hc'
      cases hc'
  rcases release_cases hp with ⟨-, rfl⟩ | ⟨-, ⟨f', ht⟩ | ⟨c, t, h₁, h₂, rfl, ht, -⟩⟩
  · rfl
  · exact (htarget ht).1
  · obtain ⟨-, f', hr⟩ := htarget ht
    cases hr

/-- What comes after a failed claim: the facade is released, as the preparation left the job, and
the end is recorded. -/
inductive Ending (im : Importer) (job : ImportJob) (c : String) (t : Identifier) :
    History → Prop where
  | intro {job₁ : ImportJob} {f : Failure} {hr : History} {kept : Bool}
      (hc : job₁.targetConnector = some c) (ht : job₁.targetTable = some t.text)
      (hversion : job₁.spaceVersion = job.spaceVersion) (hf : f.isPrecondition = false)
      (hrelease : Answered (im.release .prepare job₁ f) hr ()) :
      Ending im job c t (hr ++ [⟨.record (job₁.failWith f), kept⟩])

theorem ending_of_unbuildable {h before after : History} {j : ImportJob} {kept : Bool} {f : Failure}
    (ht : job.targetTable = some t.text) (hf : claimStatement im.settings.schema t = .error f)
    (hj : j.status = .preparing) (ha : Approach im job h)
    (hh : h = before ++ ⟨.record j, kept⟩ :: ⟨.connect c, .ok ()⟩ :: after) :
    Ending im job c t after := by
  have hprepares : Prepares ⟨.record j, kept⟩ := ⟨j, rfl, hj⟩
  have hmismatch : ∀ {job₁ : ImportJob} {t' : Identifier} {s : Statement}, SameTarget job job₁ →
      job₁.targetTable = some t'.text → claimStatement im.settings.schema t' ≠ .ok s := by
    intro job₁ t' s hsame ht' hs
    obtain rfl := eq_of_hasTable (hsame.table.trans ht) ht'
    rw [hf] at hs
    cases hs
  cases ha with
  | never hidle =>
    subst hh
    exact absurd hprepares (hidle.prepares _ (List.mem_append_right _ List.mem_cons_self))
  | @broken _ hw hr job₁ job₂ f' _ kept' hbefore _ hsame hversion hwork hrelease =>
    have hlater : ∀ e ∈ hw ++ (hr ++ [⟨.record (job₂.failWith f'), kept'⟩]), ¬ Prepares e := by
      intro e he
      rcases List.mem_append.1 he with he | he
      · exact not_prepares_of_unrecorded (kept_of_prepared (prepare_cases hwork)).2 e he
      rcases List.mem_append.1 he with he | he
      · exact not_prepares_of_unrecorded (release_unrecorded hrelease) e he
      · exact (idle_failWith job₂ f' kept').prepares e he
    -- the job is recorded in preparation once, so this is where the preparation begins
    obtain ⟨-, -, hafter⟩ := split_unique hbefore.prepares hlater hprepares hh
    cases prepare_cases hwork with
    | lost htarget =>
      rcases target_lost (hsame.table.trans ht) htarget with ⟨hnone, rfl⟩ | ⟨c', e, -, rfl⟩
      · obtain rfl := release_of_no_connector hnone hrelease
        cases hafter
      · cases hafter
    | unclaimable hc' ht' hf' =>
      obtain ⟨m, rfl⟩ := claimStatement_failure hf'
      cases hafter
      exact .intro hc' (hsame.table.trans ht) hversion rfl hrelease
    | refused _ ht' hs | notFresh _ ht' hs | versionKept _ ht' hs | installed _ ht' hs =>
      exact absurd hs (hmismatch hsame ht')
  | @passed _ hw rest job₁ job₂ _ hbefore _ hsame hwork hrest =>
    cases prepare_cases hwork with
    | installed _ ht' hs => exact absurd hs (hmismatch hsame ht')

theorem ending_of_refused {h before after : History} {s : Statement} {e : Database.Error}
    (ht : job.targetTable = some t.text) (hs : claimStatement im.settings.schema t = .ok s)
    (ha : Approach im job h) (hh : before ++ ⟨.fetchInteger c s, .error e⟩ :: after = h) :
    Ending im job c t after := by
  have hclaims : ⟨.fetchInteger c s, .error e⟩ ∈ h ∧ Claims ⟨.fetchInteger c s, .error e⟩ :=
    ⟨hh ▸ List.mem_append_right _ List.mem_cons_self, ⟨c, s⟩, List.mem_singleton_self _,
      verb_claimed hs⟩
  -- the claim that failed is the one of the preparation, which can fail in no other way after it
  cases ha with
  | never hidle => exact absurd hclaims.2 (hidle.claims _ hclaims.1)
  | @broken _ hw hr job₁ job₂ f' _ kept' hbefore _ hsame hversion hwork hrelease =>
    have hlater : Idle (hr ++ [⟨.record (job₂.failWith f'), kept'⟩]) :=
      (idle_of_does (does_release hrelease) (by decide) (release_unrecorded hrelease)).append
        (idle_failWith job₂ f' kept')
    cases prepare_cases hwork with
    | lost htarget =>
      refine absurd hclaims.2 (not_claims (fun call hcall => ?_) _ hclaims.1)
      rw [sent_append, sent_cons, sent_append, (sends_target htarget).sent] at hcall
      exact (List.mem_append.1 hcall).elim (hbefore.calls call) (hlater.calls call)
    | unclaimable _ ht' hf' =>
      obtain rfl := eq_of_hasTable (hsame.table.trans ht) ht'
      rw [hf'] at hs
      cases hs
    | refused hc' ht' hs' =>
      obtain ⟨hsame', rfl⟩ := claim_unique hbefore hlater.claims hs hh
      cases hsame'
      exact .intro hc' (hsame.table.trans ht) hversion (not_isPrecondition_of_database _) hrelease
    | notFresh | versionKept =>
      obtain ⟨hsame', -⟩ := claim_unique hbefore hlater.claims hs hh
      cases hsame'
    | installed _ _ _ _ hinstall =>
      have hrest : ∀ e ∈ _ ++ (hr ++ [⟨.record (job₂.failWith f'), kept'⟩]), ¬ Claims e :=
        fun e he => (List.mem_append.1 he).elim (not_claims_of_install hinstall e)
          (hlater.claims e)
      obtain ⟨hsame', -⟩ := claim_unique hbefore hrest hs hh
      cases hsame'
  | @passed _ hw rest job₁ job₂ _ hbefore _ hsame hwork hrest =>
    cases prepare_cases hwork with
    | installed _ _ _ _ hinstall =>
      have hlater : ∀ e ∈ _ ++ rest, ¬ Claims e :=
        fun e he => (List.mem_append.1 he).elim (not_claims_of_install hinstall e)
          (hrest.claims e)
      obtain ⟨hsame', -⟩ := claim_unique hbefore hlater hs hh
      cases hsame'

theorem ending_of_failedClaim {result : ImportJob} {h after : History}
    (hjob : job.status.isFinal = false) (hp : Answered (im.run job) h result)
    (hfail : FailedClaim im job c t h after) : Ending im job c t after := by
  cases hfail with
  | unbuildable ht hf hj => exact ending_of_unbuildable ht hf hj (approach_of_run hjob hp) rfl
  | refused ht hs => exact ending_of_refused ht hs (approach_of_run hjob hp) rfl

/-- After a failed claim nothing is sent, unless the job came with the first space version and its
connector is still there: then the facade of the table is taken down. -/
theorem sent_after_failed_claim {result : ImportJob} {h after : History}
    (hjob : job.status.isFinal = false) (hp : Answered (im.run job) h result)
    (hfail : FailedClaim im job c t h after) :
    (sent after ≠ [] ↔ job.spaceVersion = some freshVersion ∧ ⟨.connect c, .ok ()⟩ ∈ after) ∧
      (sent after ≠ [] → sent after = im.downCalls c t) := by
  obtain @⟨job₁, f, hr, kept, hc, ht, hversion, hf, hrelease⟩ :=
    ending_of_failedClaim hjob hp hfail
  -- a failed claim sets no version, so the one that the job came with decides
  have hmust : mustRelease .prepare job₁ f = true ↔ job.spaceVersion = some freshVersion := by
    simp [mustRelease, Phase.mayLeaveFacade, hversion, hf]
  rcases release_cases hrelease with
    ⟨hkeep, rfl⟩ | ⟨hdrop, ⟨f', htarget⟩ | ⟨c', t', h₁, h₂, rfl, htarget, hs⟩⟩
  · have hother : job.spaceVersion ≠ some freshVersion := fun hfresh => by
      rw [hmust.2 hfresh] at hkeep
      cases hkeep
    simp [Question.calls, hother]
  · rcases target_lost ht htarget with ⟨hnone, -⟩ | ⟨c', e, -, rfl⟩
    · rw [hc] at hnone
      cases hnone
    · simp [Question.calls]
  · have hfresh : job.spaceVersion = some freshVersion := hmust.1 hdrop
    rcases target_cases htarget with ⟨f', hlost, -⟩ | ⟨c'', t'', hfound, hc', ht', rfl⟩
    · cases hlost
    cases hfound
    obtain rfl : c' = c := Option.some.inj (hc'.symm.trans hc)
    obtain rfl := eq_of_hasTable ht ht'
    obtain ⟨s, -, hdown⟩ := downCalls_eq im c' t'
    have hsent : sent ([⟨.connect c', .ok ()⟩] ++ h₂ ++ [⟨.record (job₁.failWith f), kept⟩]) =
        im.downCalls c' t' := by
      simp [Question.calls, hs.sent]
    refine ⟨⟨fun _ => ⟨hfresh, by simp⟩, fun _ => ?_⟩, fun _ => hsent⟩
    rw [hsent, hdown]
    exact List.cons_ne_nil _ _

/-- Everything goes as it should but the claim. -/
def refuseClaim : (q : Question) → Answer q
  | .fetchInteger _ s =>
    if Verb.of? s = some .claim then .error (.unexpectedRow "no such sequence") else .ok 1
  | q => oblige q

/-- The job for the roads, handed in with the first space version. -/
def versionedJob : ImportJob := { roadsJob with spaceVersion := some freshVersion }

/-- What this job's run with a refused claim asked and was told. -/
def refusedHistory : History := ((viewImporter.run versionedJob).carryOut refuseClaim).1

/-- The statement that claims the roads. -/
def claimOfRoads : Statement := ⟨"SELECT nextval('\"geo\".\"roads_version_seq\"')", []⟩

theorem refusedHistory_failedClaim :
    FailedClaim viewImporter versionedJob "db" ⟨"roads", by decide, by decide⟩ refusedHistory
      (refusedHistory.drop 7) := by
  have hclaim : refusedHistory.drop 6 =
      ⟨.fetchInteger "db" claimOfRoads, .error (.unexpectedRow "no such sequence")⟩ ::
        refusedHistory.drop 7 := by rfl
  have hbuilt : claimStatement viewImporter.settings.schema ⟨"roads", by decide, by decide⟩ =
      .ok claimOfRoads := by rfl
  have hdivided := List.take_append_drop 6 refusedHistory
  rw [hclaim] at hdivided
  have hfailed : FailedClaim viewImporter versionedJob "db" ⟨"roads", by decide, by decide⟩
      (refusedHistory.take 6 ++
        ⟨.fetchInteger "db" claimOfRoads, .error (.unexpectedRow "no such sequence")⟩ ::
          refusedHistory.drop 7) (refusedHistory.drop 7) := .refused rfl hbuilt
  rwa [hdivided] at hfailed

/-- The roads lose a facade when they could not be claimed. -/
theorem roads_released_unclaimed :
    sent (refusedHistory.drop 7) ≠ [] ↔
      versionedJob.spaceVersion = some freshVersion ∧
        ⟨.connect "db", .ok ()⟩ ∈ refusedHistory.drop 7 :=
  (sent_after_failed_claim (by decide) (answered_carryOut _ _) refusedHistory_failedClaim).1

/-- It is not so that nothing is sent after a failed claim. -/
theorem not_silent_after_failed_claim :
    ¬ ∀ (im : Importer) (job result : ImportJob) (c : String) (t : Identifier) (h after : History),
      job.status.isFinal = false → Answered (im.run job) h result →
        FailedClaim im job c t h after → sent after = [] := by
  intro hall
  have hsilent := hall _ _ _ _ _ _ _ (by decide) (answered_carryOut refuseClaim _)
    refusedHistory_failedClaim
  exact absurd hsilent (by decide +kernel)

end Importer

end BulkImport.Import
