import BulkImport.Proofs.Import.Blame
import BulkImport.Proofs.Import.Success

/-!
# What a lost connection is reported as

Attempts are candid: they break off with a lost connection once one of their calls is answered so
(`candid`).  The validation, the preparation and the execution are made of attempts, so that a
connection which is lost in one of them is reported as lost (`work_candid`).  The finalization
carries on: it sums up in one text what was in the way of taking the facade down, and a connection
that is lost there is reported as a failed finalization (`lost_connection_reported`).
-/

namespace BulkImport.Import

open BulkImport.Job BulkImport.Sql BulkImport.Table BulkImport.Program
open BulkImport.ImportJob (failWith_eq status_failWith)

/-- Whether a call was answered that there is no connection. -/
def isLost : Except Database.Error Unit → Bool
  | .error (.noConnection _) => true
  | _ => false

theorem isLost_map {α : Type} {a : Except Database.Error α}
    (h : isLost (a.map fun _ => ()) = true) : ∃ m, a = .error (.noConnection m) := by
  cases a with
  | ok a => cases h
  | error e =>
    cases e with
    | noConnection m => exact ⟨m, rfl⟩
    | _ => cases h

theorem isLost_iff {a : Except Database.Error Unit} :
    isLost a = true ↔ ∃ m, a = .error (.noConnection m) := by
  constructor
  · exact fun h => isLost_map (by cases a <;> exact h)
  · rintro ⟨m, rfl⟩
    rfl

/-- A history with a call that was answered that there is no connection. -/
def Loses (h : History) : Prop := ∃ reply ∈ replies h, isLost reply.2 = true

theorem loses_append {h h' : History} : Loses (h ++ h') ↔ Loses h ∨ Loses h' := by
  simp only [Loses, replies_append, List.mem_append, or_and_right, exists_or]

theorem not_loses_of_silent {h : History} (hsilent : sent h = []) : ¬ Loses h := by
  simp [Loses, replies_of_silent hsilent]

/-- Attempts that lose the connection break off with that. -/
theorem candid (stage : Stage) :
    Judgment stage fun h failure => Loses h → ∃ m, failure = some (.noConnection m) := by
  have hanswer : ∀ {α : Type} (a : Except Database.Error α), isLost (a.map fun _ => ()) = true →
      ∃ m, failure? (a.mapError (Failure.ofDatabase stage)) = some (.noConnection m) := by
    intro α a hlost
    obtain ⟨m, rfl⟩ := isLost_map hlost
    exact ⟨m, rfl⟩
  exact
    { nothing := fun hlost => absurd hlost (not_loses_of_silent rfl)
      append := fun hfirst hrest hlost => by
        rcases loses_append.1 hlost with hlost | hlost
        · obtain ⟨m, hm⟩ := hfirst hlost
          cases hm
        · exact hrest hlost
      failed := fun _ hlost => absurd hlost (not_loses_of_silent rfl)
      connected := fun _ _ hlost => absurd hlost (not_loses_of_silent rfl)
      executed := fun c s a hlost => by
        obtain ⟨m, rfl⟩ := isLost_iff.1 (by simpa [Loses, Question.replies] using hlost)
        exact ⟨m, rfl⟩
      counted := fun c s a hlost => hanswer a (by simpa [Loses, Question.replies] using hlost)
      listed := fun c s a hlost => hanswer a (by simpa [Loses, Question.replies] using hlost) }

namespace Importer

variable {im : Importer} {job job' result : ImportJob} {h : History} {p : Phase}

/-! ### Candid phases -/

theorem load_candid {u : Upload} {r : Except Failure String}
    (hp : Answered (im.load job u).run h r) (hlost : Loses h) :
    ∃ m, r = .error (.noConnection m) := by
  rcases load_cases hp with ⟨f, -, hs, -⟩ | ⟨c, t, relation, into, s, a, -, -, -, -, rfl, rfl⟩
  · exact absurd hlost (not_loses_of_silent hs.sent)
  · obtain ⟨m, rfl⟩ := isLost_map (by simpa [Loses, Question.replies] using hlost)
    exact ⟨m, rfl⟩

/-- Loads break off where the connection is lost. -/
theorem Loads.candid {keys : List String} {o : ImportJob × Except Failure Nat}
    (hl : Loads im keys job h o) (hlost : Loses h) : ∃ m, o.2 = .error (.noConnection m) := by
  induction hl with
  | finished => exact absurd hlost (not_loses_of_silent rfl)
  | absent _ _ ih => exact ih hlost
  | disconnected _ hload =>
    obtain ⟨m, hm⟩ := load_candid hload hlost
    exact ⟨m, congrArg Except.error (Except.error.inj hm)⟩
  | failed _ hload hf _ ih =>
    rcases loses_append.1 hlost with hlost | hlost
    · -- a load that lost the connection is not passed over
      obtain ⟨m, hm⟩ := load_candid hload hlost
      cases hm
      cases hf
    · obtain ⟨m, hm⟩ := ih hlost
      exact ⟨m, by rw [hm]; rfl⟩
  | imported _ hload _ ih =>
    rcases loses_append.1 hlost with hlost | hlost
    · obtain ⟨m, hm⟩ := load_candid hload hlost
      cases hm
    · exact ih hlost

/-- Before the finalization, a phase in which the connection is lost breaks off with that. -/
theorem work_candid {o : Outcome} (hp : Answered (im.work p job) h o) (hphase : p ≠ .finalize)
    (hlost : Loses h) : ∃ m, o.2 = .error (.noConnection m) := by
  cases p with
  | validate =>
    rcases validate_ends hp with ⟨f, hcheck, rfl⟩ | ⟨h₁, h₂, found, rfl, hcheck, hfound, -⟩
    · obtain ⟨m, hm⟩ := (candid _).checkTarget im job _ _ hcheck hlost
      cases hm
      exact ⟨m, rfl⟩
    · have hsilent : sent h₂ = [] := by
        split at hfound
        · exact (inspectAll_sends hfound).sent
        · rw [(answered_pure.1 hfound).1, sent_nil]
      rcases loses_append.1 hlost with hlost | hlost
      · obtain ⟨m, hm⟩ := (candid _).checkTarget im job _ _ hcheck hlost
        cases hm
      · exact absurd hlost (not_loses_of_silent hsilent)
  | prepare =>
    cases prepare_cases hp with
    | lost htarget => exact absurd hlost (not_loses_of_silent (sends_target htarget).sent)
    | unclaimable => exact absurd hlost (not_loses_of_silent rfl)
    | @refused c t s e =>
      obtain ⟨m, hm⟩ := isLost_map (α := Int64) (a := .error e) (by
        simpa [Loses, Question.replies] using hlost)
      cases hm
      exact ⟨m, rfl⟩
    | notFresh | versionKept =>
      simp [Loses, Question.replies, isLost, Except.map] at hlost
    | @installed c t s job' h r _ _ _ _ hinstall =>
      have hlost' : Loses h := by simpa [Loses, Question.replies, isLost, Except.map] using hlost
      obtain ⟨m, hm⟩ := (candid _).install im _ _ _ _ _ _ hinstall hlost'
      cases r with
      | ok _ => cases hm
      | error f =>
        cases hm
        exact ⟨m, rfl⟩
  | execute =>
    obtain ⟨job₁, failures, hl, ho⟩ := answered_execute.1 hp
    obtain ⟨m, hm⟩ := hl.candid hlost
    dsimp only at hm
    rcases ho with ⟨f, rfl, rfl⟩ | ⟨n, rfl, -⟩
    · exact ⟨m, congrArg Except.error (Except.error.inj hm)⟩
    · cases hm
  | finalize => exact absurd rfl hphase

/-- A finalization that sent something and fails does so because of the facade. -/
theorem finalize_errorType {f : Failure} (hp : Answered (im.finalize job) h (job', .error f))
    (hsent : sent h ≠ []) : f.errorType = .finalizationFailed := by
  generalize ho : (job', Except.error f) = o at hp
  cases finalized_of_answered hp with
  | lost htarget => exact absurd (sends_target htarget).sent hsent
  | standing =>
    cases ho
    rfl
  | down => cases ho

/-! ### Runs -/

/-- A run that breaks off in a phase loses the connection there when a call that is for the phase to
make is answered so. -/
def LostIn (p : Phase) (h : History) : Prop :=
  lastEntered ((recorded h).map (·.status)) = some p ∧
    ∃ reply ∈ replies h, isLost reply.2 = true ∧ ∃ v ∈ p.verbs, reply.1.verb? = some v

instance (p : Phase) (h : History) : Decidable (LostIn p h) := by
  unfold LostIn
  infer_instance

/-- From some call on, all calls are answered that there is no connection. -/
def Outage (h : History) : Prop :=
  ∃ n < (replies h).length, ∀ reply ∈ (replies h).drop n, isLost reply.2 = true

instance (h : History) : Decidable (Outage h) := by
  unfold Outage
  infer_instance

/-- What a phase does is not for an earlier one to do. -/
theorem verbs_of_earlier {v : Verb} (hv : v ∈ p.verbs) :
    v ∉ p.earlier.flatMap Phase.verbs := by
  revert v
  cases p <;> decide

/-- What a release does is for no phase to do where there is something to release. -/
theorem verbs_of_release {v : Verb} (hv : v ∈ p.verbs) (hp : p.mayLeaveFacade = true) :
    v ∉ [Verb.dropTrigger, .dropView] := by
  revert v
  cases p <;> revert hp <;> decide

/-- The phase that breaks off made the call that is for it to make. -/
theorem Breaks.lost {v : Verb} {reply : Call × Except Database.Error Unit}
    (hb : Breaks im p job h result) (hin : reply ∈ replies h) (hlost : isLost reply.2 = true)
    (hv : v ∈ p.verbs) (hverb : reply.1.verb? = some v) :
    ∃ f, result.status = ImportJob.failureStatus f ∧ result.errorType = some f.errorType ∧
      (p ≠ .finalize → ∃ m, f = .noConnection m) ∧
      (p = .finalize → f.errorType = .finalizationFailed) := by
  obtain ⟨job₁, job₂, f, hw, hr, e, e', rfl, he, he', -, hwork, hrelease, hopen, rfl⟩ := hb.parts
  have hthere : reply ∈ replies hw := by
    have hnot : reply ∉ replies hr := by
      intro hin
      rcases release_cases hrelease with ⟨-, rfl⟩ | ⟨hmust, -⟩
      · simp at hin
      · simp only [mustRelease, Bool.and_eq_true] at hmust
        exact (does_release hrelease).verb_ne (verbs_of_release hv hmust.1.1) _
          (call_of_reply hin) hverb
    simpa only [replies_append, replies_of_silent he, replies_of_silent he', List.append_nil,
      List.nil_append, List.mem_append, hnot, or_false] using hin
  have hsent : sent hw ≠ [] := List.ne_nil_of_mem (call_of_reply hthere)
  obtain ⟨d, hend, -⟩ := failWith_eq hopen f
  refine ⟨f, status_failWith hopen f, by rw [hend], fun hphase => ?_, ?_⟩
  · obtain ⟨m, hm⟩ := work_candid hwork hphase ⟨reply, hthere, hlost⟩
    exact ⟨m, Except.error.inj hm⟩
  · rintro rfl
    exact finalize_errorType hwork hsent

/-- A run that loses its connection before the finalization fails with that; a finalization that
fails for it is reported as such. -/
theorem lost_connection_reported (hjob : job.status.isFinal = false)
    (hp : Answered (im.run job) h result) (hlost : LostIn p h) :
    (p ≠ .finalize → result.status = .failed ∧ result.errorType = some .noDbConnection) ∧
      (p = .finalize → result.status.isFailure = true →
        result.errorType = some .finalizationFailed) := by
  obtain ⟨hentered, reply, hin, hreply, v, hv, hverb⟩ := hlost
  cases progress_of_run hjob hp with
  | refused henter => simp [Question.replies] at hin
  | @broken q job₁ _ h₁ h₂ hpasses hbreaks =>
    have hlast := lastEntered_of_breaks hpasses hbreaks
    obtain rfl : q = p := Option.some.inj (hlast.symm.trans hentered)
    have hthere : reply ∈ replies h₂ := by
      have hnot : reply ∉ replies h₁ := fun hin =>
        hpasses.does.verb_ne (verbs_of_earlier hv) _ (call_of_reply hin) hverb
      simpa [hnot] using hin
    obtain ⟨f, hstatus, htype, hbefore, hend⟩ := hbreaks.lost hthere hreply hv hverb
    constructor
    · intro hphase
      obtain ⟨m, rfl⟩ := hbefore hphase
      exact ⟨hstatus, htype⟩
    · intro hphase _
      rw [htype, hend hphase]
  | finished hpasses =>
    have hend : lastEntered ((recorded h).map (·.status)) = some .finalize := by
      rw [hpasses.statuses]
      rfl
    obtain rfl : Phase.finalize = p := Option.some.inj (hend.symm.trans hentered)
    refine ⟨fun hphase => absurd rfl hphase, fun _ hresult => ?_⟩
    rw [hpasses.status_finalized] at hresult
    cases hresult

/-- A database that obliges but is not reached with a query for a number. -/
def unreached : (q : Question) → Answer q
  | .fetchInteger _ _ => .error (.noConnection "pool timed out")
  | q => oblige q

/-- The import of roads whose table cannot be looked for. -/
theorem roads_disconnected :
    ((tableImporter.run roadsJob).carryOut unreached).2.status = .failed ∧
      ((tableImporter.run roadsJob).carryOut unreached).2.errorType = some .noDbConnection := by
  have hlost : LostIn .validate ((tableImporter.run roadsJob).carryOut unreached).1 := by
    decide +kernel
  have hrun := answered_carryOut unreached (tableImporter.run roadsJob)
  exact (lost_connection_reported (by decide) hrun hlost).1 (by decide)

/-! ### A connection that is lost at the end -/

/-- A facade without a view is taken down by one call, which is not made up for when it is lost. -/
theorem tearDown_lost {c : String} {t : Identifier} {failures : List Failure}
    (htable : im.settings.useViewFacade = false) (hp : Answered (im.tearDown c t) h failures)
    (hcut : ∀ c s a, ⟨.execute c s, a⟩ ∈ h → Verb.of? s = some .dropTrigger →
      isLost a = true) :
    failures ≠ [] ∧ ∃ s a, Verb.of? s = some .dropTrigger ∧ isLost a = true ∧
      h = [⟨.execute c s, a⟩] := by
  unfold tearDown at hp
  obtain ⟨h₁, h₂, trigger, rfl, hdropped, hrest⟩ := answered_andThen.1 hp
  rw [htable] at hrest
  obtain ⟨h₃, h₄, view, rfl, hview, hend⟩ := answered_andThen.1 hrest
  obtain ⟨rfl, rfl⟩ := answered_pure.1 hview
  obtain ⟨rfl, rfl⟩ := answered_pure.1 hend
  rcases executeBuilt_cases hdropped with ⟨e, he, -⟩ | ⟨s, a, hs, rfl, rfl⟩
  · rw [dropTriggerStatement_eq] at he
    cases he
  · have hverb := verb_dropTrigger hs
    have hlost := hcut c s a (by simp) hverb
    obtain ⟨m, rfl⟩ := isLost_iff.1 hlost
    exact ⟨by simp [Except.mapError], s, _, hverb, hlost, rfl⟩

/-- An import into its table itself that is helped until its trigger is to be dropped, and loses its
connection there, fails in its finalization and for nothing else. -/
theorem lost_at_trigger {c : String} {t : Identifier} (hready : Ready im job c t)
    (htable : im.settings.useViewFacade = false) (hp : Answered (im.run job) h result)
    (hgood : ∀ e ∈ h, Helpful im.settings.schema [.dropTrigger] e)
    (hcut : ∀ c s a, ⟨.execute c s, a⟩ ∈ h → Verb.of? s = some .dropTrigger →
      isLost a = true) :
    Outage h ∧ LostIn .finalize h ∧ result.status = .failed ∧
      result.errorType = some .finalizationFailed := by
  obtain ⟨h₁, h₂, job₁, rfl, hpasses, hend⟩ := reaches_finalize hready (by decide) hp hgood
  rcases hend with hpassage | hbreaks
  · obtain ⟨job₂, job₃, job₄, hw, hs, e, e', rfl, -, -, -, hwork, -, -⟩ := hpassage.parts
    generalize ho : (job₃, Except.ok (ε := Failure) ()) = o at hwork
    cases finalized_of_answered hwork with
    | lost | standing => cases ho
    | down _ _ hdown =>
      exact absurd rfl (tearDown_lost htable hdown fun c s a ha => hcut c s a (by simp [ha])).1
  · obtain ⟨before, hd, after, failures, hh, hquiet, hdown, -, hfailed, htype⟩ :=
      tornDown_of_breaks hready hpasses hbreaks fun e he => hgood e (by simp [he])
    obtain ⟨-, s, a, hverb, hlost, rfl⟩ :=
      tearDown_lost htable hdown fun c s a ha => hcut c s a (by simp [hh, ha])
    have hreplies : replies (h₁ ++ h₂) = (replies h₁ ++ replies before) ++ [(⟨c, s⟩, a)] := by
      simp [hh, replies_of_silent hquiet, Question.replies]
    refine ⟨⟨(replies h₁ ++ replies before).length, ?_, ?_⟩,
      ⟨lastEntered_of_breaks hpasses hbreaks, (⟨c, s⟩, a), ?_, hlost, .dropTrigger, by decide,
        hverb⟩, hfailed, htype⟩
    · simp [hreplies]
    · simp [hreplies, hlost]
    · simp [hreplies]

/-- A database that obliges but is not reached any more when a trigger is to be dropped. -/
def unhooked : (q : Question) → Answer q
  | .execute c s =>
    if Verb.of? s = some .dropTrigger then .error (.noConnection "pool timed out")
    else oblige (.execute c s)
  | q => oblige q

theorem helpful_unhooked {q : Question} :
    Helpful tableImporter.settings.schema [.dropTrigger] ⟨q, unhooked q⟩ := by
  cases q with
  | execute c s => exact fun hother => if_neg (hother _ (List.mem_singleton_self _))
  | _ => exact helpful_of_oblige

/-- A connection that is lost when the trigger is dropped is not reported as lost. -/
theorem lost_connection_unreported :
    ¬ ∀ (im : Importer) (job result : ImportJob) (h : History) (p : Phase),
      job.status.isFinal = false → Answered (im.run job) h result → Outage h → LostIn p h →
        result.status = .failed → result.errorType = some .noDbConnection := by
  intro hreported
  have hrun := answered_carryOut unhooked (tableImporter.run roadsJob)
  obtain ⟨houtage, hlost, hfailed, htype⟩ := lost_at_trigger (roads_ready rfl) rfl hrun
    (by
      rintro ⟨q, a⟩ he
      obtain rfl : a = unhooked q := answer_of_mem_carryOut he
      exact helpful_unhooked)
    (by
      intro c s a he hverb
      obtain rfl : a = unhooked (.execute c s) := answer_of_mem_carryOut he
      simp [unhooked, hverb, isLost])
  have hnone := hreported tableImporter roadsJob _ _ .finalize (by decide) hrun houtage hlost
    hfailed
  rw [htype] at hnone
  cases hnone

end Importer

end BulkImport.Import
